import ArticleTree.Json.Printer
import ArticleTree.Json.Written
import ArticleTree.Node.Basic

/-! # Trees as JSON

A node is written as an object whose `type` names its kind. A parameter's text is written
as a string, parsed content as an array of nodes, and merged values as an object with the
one field `list`.

The reader also takes a record as an array of its fields, the kind of a node first, and
fills in attributes, parameters and children that are missing. Inside another node or a
parameter, a kind may be given by its number.
-/

namespace ArticleTree

/-! ## Writing -/

/-- A node of a kind, with its other fields. -/
def Kind.toJson (kind : Kind) (fields : List (String × Json)) : Json :=
  .object (("type", .string kind.tag) :: fields)

def Attributes.toJson (attrs : Attributes) : Json :=
  .object (attrs.entries.map fun (name, value) => (name, .string value))

mutual

def Node.toJson : Node → Json
  | .text data => Kind.text.toJson [("data", .string data)]
  | .element name attrs children =>
      Kind.element.toJson [("name", .string name), ("attrs", attrs.toJson),
        ("children", .array (Node.allToJson children))]
  | .template name params =>
      Kind.template.toJson [("name", .string name), ("params", .object (Param.byKeyToJson params))]
  | .block b children => (Kind.block b).toJson [("children", .array (Node.allToJson children))]
  | .header depth anchor children =>
      Kind.header.toJson <|
        ("depth", .integer depth.toNat) ::
          (anchor.toList.map fun anchor => ("anchor", Json.string anchor)) ++
          [("children", .array (Node.allToJson children))]
  | .list ordered items =>
      Kind.list.toJson [("ordered", .bool ordered), ("children", .array (Node.itemsToJson items))]
  | .image name url thumbnail caption =>
      Kind.image.toJson [("name", .string name), ("url", .string url),
        ("thumbnail", .bool thumbnail), ("caption", .array (Node.allToJson caption))]
  | .gallery widths heights children =>
      Kind.gallery.toJson [("widths", .integer widths.toNat), ("heights", .integer heights.toNat),
        ("children", .array (Node.allToJson children))]
  | .galleryItem name caption =>
      Kind.galleryItem.toJson [("name", .string name),
        ("caption", .array (Node.allToJson caption))]
  | .equation formula => Kind.equation.toJson [("formula", .string formula)]
  | .inlineMath formula => Kind.inlineMath.toJson [("formula", .string formula)]
  | .error message => Kind.error.toJson [("message", .string message)]
  | .notImplemented target => Kind.notImplemented.toJson [("target", target.toJson)]

def Node.allToJson : List Node → List Json
  | [] => []
  | node :: nodes => node.toJson :: Node.allToJson nodes

def Node.itemsToJson : List (List Node) → List Json
  | [] => []
  | item :: items => .array (Node.allToJson item) :: Node.itemsToJson items

def Param.toJson : Param → Json
  | .content nodes => .array (Node.allToJson nodes)
  | .list items => .object [("list", .array (Param.allToJson items))]
  | .text data => .string data

def Param.allToJson : List Param → List Json
  | [] => []
  | item :: items => item.toJson :: Param.allToJson items

/-- The written forms of the parameters of a macro. -/
def Param.byKeyToJson : List (String × Param) → List (String × Json)
  | [] => []
  | (key, value) :: params => (key, value.toJson) :: Param.byKeyToJson params

end

def Forest.toJson (nodes : Forest) : Json :=
  .array (Node.allToJson nodes)

def Article.toJson (article : Article) : Json :=
  .object [("title", .string article.title), ("content", Forest.toJson article.content)]

/-! ## Reading -/

/-- All that a JSON value can be read as. -/
structure Reading where
  value : Json
  node : Option Node
  forest : Option Forest
  /-- The items of a list. -/
  items : Option (List Forest)
  param : Option Param
  params : Option (List Param)
  /-- The parameters of a macro. -/
  paramsByKey : Option (List (String × Param))
  attributes : Option Attributes

namespace Reading

def kind? (r : Reading) : Option Kind :=
  match r.value with
  | .string name => Kind.ofTag? name
  | .integer number => if 0 ≤ number then Kind.all[number.toNat]? else none
  | _ => none

/-- A value below a bound, if it is there. -/
def nat? (bound : Nat) (r : Option Reading) : Option Nat :=
  r.bind fun r => r.value.natBelow? bound

def text? (r : Option Reading) : Option String :=
  r.bind fun r => r.value.string?

def bool? (r : Option Reading) : Option Bool :=
  r.bind fun r => r.value.bool?

/-- A text that may be missing, or null in its stead. -/
def optionalText? (r : Option Reading) : Option (Option String) :=
  match r with
  | none => some none
  | some r =>
      match r.value with
      | .null => some none
      | value => value.string?.map some

def forest? (r : Option Reading) : Option Forest :=
  r.bind Reading.forest

end Reading

/-- The names of the fields of a node, in their order. -/
def Kind.fieldNames : Kind → List String
  | .text => ["data"]
  | .element => ["name", "attrs", "children"]
  | .template => ["name", "params"]
  | .block _ => ["children"]
  | .header => ["depth", "anchor", "children"]
  | .list => ["ordered", "children"]
  | .image => ["name", "url", "thumbnail", "caption"]
  | .gallery => ["widths", "heights", "children"]
  | .galleryItem => ["name", "caption"]
  | .equation => ["formula"]
  | .inlineMath => ["formula"]
  | .error => ["message"]
  | .notImplemented => ["target"]

/-- The node of a kind with these fields, given in the order of their names. -/
def Kind.node? (kind : Kind) (fields : List (Option Reading)) : Option Node := do
  match kind, fields with
  | .text, [data] => return .text (← Reading.text? data)
  | .element, [name, attrs, children] =>
      let name ← Reading.text? name
      let attrs ← match attrs with
        | none => some ∅
        | some r => r.attributes
      let children ← match children with
        | none => some []
        | some r => r.forest
      return .element name attrs children
  | .template, [name, params] =>
      let name ← Reading.text? name
      let params ← match params with
        | none => some []
        | some r => r.paramsByKey
      return .template name params
  | .block b, [children] => return .block b (← Reading.forest? children)
  | .header, [depth, anchor, children] =>
      let depth ← Reading.nat? UInt8.size depth
      let anchor ← Reading.optionalText? anchor
      return .header (.ofNat depth) anchor (← Reading.forest? children)
  | .list, [ordered, items] =>
      let ordered ← Reading.bool? ordered
      return .list ordered (← items.bind Reading.items)
  | .image, [name, url, thumbnail, caption] =>
      return .image (← Reading.text? name) (← Reading.text? url) (← Reading.bool? thumbnail)
        (← Reading.forest? caption)
  | .gallery, [widths, heights, children] =>
      let widths ← Reading.nat? UInt32.size widths
      let heights ← Reading.nat? UInt32.size heights
      return .gallery (.ofNat widths) (.ofNat heights) (← Reading.forest? children)
  | .galleryItem, [name, caption] =>
      return .galleryItem (← Reading.text? name) (← Reading.forest? caption)
  | .equation, [formula] => return .equation (← Reading.text? formula)
  | .inlineMath, [formula] => return .inlineMath (← Reading.text? formula)
  | .error, [message] => return .error (← Reading.text? message)
  | .notImplemented, [target] => return .notImplemented (← target.bind Reading.node)
  | _, _ => none

namespace Reading

/-- The node that an object stands for. Its kind is given once, anywhere among its
    fields. -/
def nodeOfFields? (fields : List (String × Reading)) : Option Node := do
  match fields.filter fun field => field.1 = "type" with
  | [(_, kind)] =>
      let kind ← kind.kind?
      let others := fields.filter fun field => field.1 ≠ "type"
      kind.node? (← Record.fromFields? kind.fieldNames others)
  | _ => none

def nodeOfItems? : List Reading → Option Node
  | [] => none
  | kind :: others => do
      let kind ← kind.kind?
      kind.node? (← Record.fromItems? kind.fieldNames others)

/-- The merged values that an object stands for: it has no field but `list`. -/
def mergedOfFields? : List (String × Reading) → Option Param
  | [("list", r)] => r.params.map .list
  | _ => none

/-- The merged values that an array of one array stands for. -/
def mergedOfItems? : List Reading → Option Param
  | [r] => r.params.map .list
  | _ => none

def attributesOfFields? (fields : List (String × Reading)) : Option Attributes := do
  let entries ← fields.mapM fun (name, r) => do return (name, ← r.value.string?)
  return Attributes.ofList entries

def paramsOfFields? (fields : List (String × Reading)) : Option (List (String × Param)) := do
  let entries ← fields.mapM fun (key, r) => do return (key, ← r.param)
  return Keyed.ofList entries

/-- A value that is neither array nor object. -/
def ofScalar (value : Json) : Reading where
  value := value
  node := none
  forest := none
  items := none
  param := value.string?.map .text
  params := none
  paramsByKey := none
  attributes := none

/-- An array, by the readings of its items. As a parameter it is a forest if it can be
    one. -/
def ofItems (value : Json) (items : List Reading) : Reading :=
  let forest := items.mapM Reading.node
  { value := value
    node := nodeOfItems? items
    forest := forest
    items := items.mapM Reading.forest
    param := (forest.map Param.content).or (mergedOfItems? items)
    params := items.mapM Reading.param
    paramsByKey := none
    attributes := none }

/-- An object, by the readings of its fields. -/
def ofFields (value : Json) (fields : List (String × Reading)) : Reading where
  value := value
  node := nodeOfFields? fields
  forest := none
  items := none
  param := mergedOfFields? fields
  params := none
  paramsByKey := paramsOfFields? fields
  attributes := attributesOfFields? fields

end Reading

namespace Json

mutual

/-- All that a value can be read as. -/
def reading : Json → Reading
  | array items => .ofItems (array items) (readings items)
  | object fields => .ofFields (object fields) (fieldReadings fields)
  | value => .ofScalar value

def readings : List Json → List Reading
  | [] => []
  | item :: items => item.reading :: readings items

def fieldReadings : List (String × Json) → List (String × Reading)
  | [] => []
  | (name, value) :: fields => (name, value.reading) :: fieldReadings fields

end

/-- A node gives its kind by a name, not by a number. -/
def kindIsNamed : Json → Bool
  | object fields => fields.all fun (name, value) => name ≠ "type" || value.string?.isSome
  | array (kind :: _) => kind.string?.isSome
  | _ => true

end Json

def Node.ofJson? (value : Json) : Option Node :=
  if value.kindIsNamed then value.reading.node else none

def Forest.ofJson? : Json → Option Forest
  | .array items => items.mapM Node.ofJson?
  | _ => none

def Param.ofJson? (value : Json) : Option Param :=
  value.reading.param

def Node.parse? (text : String) : Option Node :=
  (Json.parse? text).bind Node.ofJson?

def Forest.parse? (text : String) : Option Forest :=
  (Json.parse? text).bind Forest.ofJson?

def Param.parse? (text : String) : Option Param :=
  (Json.parse? text).bind Param.ofJson?

def Article.parse? (text : String) : Option Article := do
  match ← (← Json.Written.parse? text).record? ["title", "content"] with
  | [some title, some content] =>
      let content ← content.value? (Json.maxNesting - 1)
      return ⟨← title.text?, ← Forest.ofJson? content⟩
  | _ => none

def Article.ofJson? (value : Json) : Option Article := do
  match ← value.record? ["title", "content"] with
  | [some title, some content] => return ⟨← title.string?, ← Forest.ofJson? content⟩
  | _ => none

end ArticleTree
