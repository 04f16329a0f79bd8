import ArticleTree.Proofs.Html.Lengths
import ArticleTree.Proofs.Json.Lengths
import ArticleTree.Proofs.Markup.Calls
import ArticleTree.Proofs.Markup.GalleryLines
import ArticleTree.Proofs.Session.Echo
import ArticleTree.Proofs.Text.Blank

/-! # Markup nested in markup

The markup in a macro call or a gallery stands as a string in JSON, which stands in an attribute of
the HTML that is parsed. So it is shorter than that HTML. If every text is rendered to itself, the
texts that are parsed get shorter at each level, and no text is nested in another more deeply than
it is long.
-/

namespace ArticleTree

namespace Json

theorem Within.step? {n : Nat} {value found : Json} (h : value.Within n) {token : String}
    (hfound : value.step? token = some found) : found.Within n := by
  cases h with
  | object hfields => exact (Within.object hfields).field? hfound
  | array hitems =>
      rw [Json.step?] at hfound
      split at hfound
      · cases hfound
      · obtain ⟨i, -, hitem⟩ := Option.bind_eq_some_iff.1 hfound
        exact hitems found (List.mem_of_getElem? hitem)
  | _ => cases hfound

theorem Within.at? {n : Nat} {value found : Json} (h : value.Within n) {tokens : List String}
    (hfound : value.at? tokens = some found) : found.Within n := by
  induction tokens generalizing value with
  | nil =>
      cases hfound
      exact h
  | cons token tokens ih =>
      obtain ⟨next, hnext, hfound⟩ := Option.bind_eq_some_iff.1 hfound
      exact ih (h.step? hnext) hfound

end Json

/-- Replacing nodes is alike if it is for each node that is replaced. -/
theorem Pass.echoes_replacing {title : String} {n : Nat} {ctx : Context} {name : String}
    {guard : Node → Bool} {f f' : Node → Session Node} {q : Node → Prop}
    (hf : ∀ node, q node → guard node = true → (f node).Echoes title n (f' node))
    {nodes : Forest} (h : Everywhere q nodes) :
    ((Pass.replacing name guard f).walk ctx nodes).Echoes title n
      ((Pass.replacing name guard f').walk ctx nodes) := by
  induction nodes using Node.weightAll_induction with
  | step nodes ih =>
  cases nodes with
  | nil =>
      rw [Pass.walk_nil, Pass.walk_nil]
      exact .done []
  | cons node rest =>
      obtain ⟨hnode, hrest⟩ := everywhere_cons.1 h
      obtain ⟨hself, hbelow⟩ := everywhere_singleton.1 hnode
      have hfirst : ((Pass.replacing name guard f).node ctx node).Echoes title n
          ((Pass.replacing name guard f').node ctx node) := by
        rw [Pass.node_eq, Pass.node_eq, Pass.replacing_judge, Pass.replacing_judge]
        cases hguard : guard node with
        | false =>
            have hsequences : (node.sequences.mapM ((Pass.replacing name guard f).walk ctx)).Echoes
                title n (node.sequences.mapM ((Pass.replacing name guard f').walk ctx)) :=
              Session.Echoes.mapM fun s hs =>
                ih s (Node.weightAll_lt_of_mem_sequences List.mem_cons_self hs) (hbelow s hs)
            exact (hsequences.bind fun _ _ => .done _).map some
        | true =>
            simp only [if_true, bind_assoc, pure_bind, Pass.carryOut]
            exact (hf node hself hguard).bind fun _ _ => .done _
      rw [Pass.walk_cons, Pass.walk_cons]
      exact hfirst.bind fun _ _ =>
        (ih rest (Node.weightAll_lt_cons node rest) hrest).bind fun _ _ => .done _

namespace Markup

open Session (Echoes)

/-! ## What is kept is longer than its texts -/

variable {n : Nat}

theorem IsWikitext.length_le {value : Json} {text : String} (h : IsWikitext value text)
    (hvalue : value.Within n) : text.length + 2 ≤ n := by
  cases h with
  | object hfield =>
      cases hvalue.field? hfield with
      | string hlength => exact hlength
  | array =>
      cases hvalue with
      | array hitems =>
          cases hitems _ List.mem_cons_self with
          | string hlength => exact hlength

theorem AreParams.length_le {given : Option Json} {params : List (String × String)}
    (h : AreParams given params) (hgiven : ∀ value, given = some value → value.Within n) :
    ∀ param ∈ params, param.2.length + 2 ≤ n := by
  cases h with
  | missing => simp
  | object htexts =>
      intro param hparam
      obtain ⟨value, hfield, htext⟩ := (htexts.mem_iff param.1 param.2).1 hparam
      exact htext.length_le ((hgiven _ rfl).field? hfield)

theorem IsCall.length_le {template : Json} {call : MacroCall} (h : IsCall template call)
    (htemplate : template.Within n) : ∀ param ∈ call.params, param.2.length + 2 ≤ n := by
  cases h with
  | object _ _ hparams => exact hparams.length_le fun value hvalue => htemplate.field? hvalue
  | array _ hparams =>
      cases htemplate with
      | array hitems =>
          refine hparams.length_le ?_
          rintro value rfl
          exact hitems value (by simp)

/-- The texts of a call's parameters are shorter than what the call is read from. -/
theorem Keeps.length_le {text : String} {call : MacroCall} (h : Keeps (some text) call) :
    ∀ param ∈ call.params, param.2.length + 2 ≤ text.length := by
  obtain ⟨kept, value, template, hkept, hvalue, htemplate, hcall⟩ := h
  cases hkept
  exact hcall.length_le ((Json.within_parse? hvalue).at? htemplate)

/-- So is the source of a gallery. -/
theorem length_readGallery?_le {text : String} {source : GallerySource}
    (h : readGallery? (some text) = some source) : source.text.length + 2 ≤ text.length := by
  obtain ⟨written, hwritten, h⟩ := Option.bind_eq_some_iff.1 h
  have hwithin := Json.Written.within_parse? hwritten
  obtain ⟨fields, hfields, h⟩ := Option.bind_eq_some_iff.1 h
  split at h
  · rename_i body attrs
    have hbody := hwithin.record? hfields List.mem_cons_self
    obtain ⟨inner, hinner, h⟩ := Option.bind_eq_some_iff.1 h
    split at h
    · rename_i extsrc
      have hextsrc := hbody.record? hinner List.mem_cons_self
      obtain ⟨found, hfound, h⟩ := Option.bind_eq_some_iff.1 h
      have hlength := hextsrc.text? hfound
      split at h
      · cases h
        exact hlength
      · obtain ⟨value, -, h⟩ := Option.bind_eq_some_iff.1 h
        split at h
        · cases h
          exact hlength
        · cases h
    · cases h
  · cases h

theorem length_caption_le {source : GallerySource} {line : String} (hline : line ∈ source.lines)
    {name caption : List Char} (hcut : Text.cutAt? '|' line.toList = some (name, caption)) :
    (String.ofList caption).length ≤ source.text.length := by
  obtain ⟨all, hall, hlines⟩ := source.exists_lines
  rw [hlines] at hline
  obtain ⟨cs, hcs, rfl⟩ := List.mem_map.1 hline
  have hcaption : caption.length ≤ cs.length := by
    rw [String.toList_ofList] at hcut
    rw [(Text.cutAt?_eq_some hcut).2, List.length_append, List.length_cons]
    omega
  have hpart := (hall.part_of_mem cs (List.mem_of_mem_filter hcs)).length_le
  rw [String.length_toList] at hpart
  rw [String.length_ofList]
  exact hcaption.trans (hpart.trans (Text.length_trim_le source.text))

/-! ## Putting back -/

variable {title : String} {ctx : Context} {parse parse' : String → Session Forest}

theorem echoes_readParams {name : String} {given : List (String × String)}
    (hparse : ∀ param ∈ given, (parse param.2).Echoes title n (parse' param.2)) :
    (readParams parse name given).Echoes title n (readParams parse' name given) := by
  induction given with
  | nil => exact .done []
  | cons param given ih =>
      obtain ⟨key, text⟩ := param
      obtain ⟨htext, hrest⟩ := List.forall_mem_cons.1 hparse
      rw [readParams, readParams]
      split
      · exact (htext.map _).bind fun _ _ => (ih hrest).bind fun _ _ => .done _
      · exact (ih hrest).bind fun _ _ => .done _

/-- A call only has texts parsed that are shorter than what is kept of it. -/
theorem echoes_recoverCall {m : Nat} {node : Node}
    (hkept : ∀ text, node.attr? "data-mw" = some text → text.length ≤ m)
    (hparse : ∀ text : String, text.length + 2 ≤ m → (parse text).Echoes title n (parse' text)) :
    (recoverCall parse node).Echoes title n (recoverCall parse' node) := by
  unfold recoverCall
  split
  · exact .fail _
  · rename_i call hread
    have hkeeps := readCall_eq_ok.1 hread
    obtain ⟨text, -, -, htext, -⟩ := id hkeeps
    rw [htext] at hkeeps
    refine (echoes_readParams fun param hparam => hparse _ ?_).bind fun _ _ => .done _
    exact (hkeeps.length_le param hparam).trans (hkept text htext)

theorem echoes_recoverGallery {m : Nat} {node : Node}
    (hkept : ∀ text, node.attr? "data-mw" = some text → text.length ≤ m)
    (hparse : ∀ text : String, text.length + 2 ≤ m → (parse text).Echoes title n (parse' text)) :
    (recoverGallery parse node).Echoes title n (recoverGallery parse' node) := by
  unfold recoverGallery
  split
  · exact .done _
  · rename_i source hread
    obtain ⟨text, htext, -⟩ := Option.bind_eq_some_iff.1 hread
    rw [htext] at hread
    have hsource := (length_readGallery?_le hread).trans (hkept text htext)
    refine Echoes.bind (Echoes.mapM fun line hline => ?_) fun _ _ => .done _
    unfold galleryItem
    split
    · exact .done _
    · rename_i name caption hcut
      have hcaption := length_caption_le hline hcut
      refine Echoes.recover ?_ captionError
      refine Echoes.bind ?_ fun _ _ => .done _
      exact (hparse _ (by omega)).bind fun _ _ => Echoes.ofExcept _

/-- HTML only has texts parsed that are shorter than it. -/
theorem echoes_parseRenderedWith {html : String}
    (hrecovered : ∀ text nodes, (parse text).Returns nodes → RecoveredForest nodes)
    (hparse : ∀ text : String, text.length + 2 ≤ html.length →
      (parse text).Echoes title n (parse' text)) :
    (parseRenderedWith parse ctx html).Echoes title n (parseRenderedWith parse' ctx html) := by
  unfold parseRenderedWith
  simp only [chain_run]
  refine (Echoes.ofExcept _).bind fun nodes hnodes => ?_
  have hvalues := Html.everywhere_valuesWithin (Session.returns_ofExcept.1 hnodes)
  refine (Pass.echoes_replacing (fun node hnode _ =>
    echoes_recoverCall (hnode "data-mw") hparse) hvalues).bind fun calls hcalls => ?_
  -- The calls that are put back are not walked into by accident: no gallery is left in them.
  have hgalleries : Everywhere (fun node => isGallery node = true →
      Html.ValuesWithin html.length node) calls := by
    refine Pass.replacing_everywhere ?_ ?_ hvalues hcalls
    · intro node hnode _ given _ _ key value hvalue
      rw [Node.attr?_refill] at hvalue
      exact (everywhere_singleton.1 hnode).1 key value hvalue
    · intro node m _ _ hm
      refine (recovered_of_recoverCall hrecovered hm).2.mono fun node hnode hgallery => ?_
      obtain ⟨-, hname, htypeof⟩ := isGallery_iff.1 hgallery
      exact absurd htypeof (hnode.noGalleryList hname)
  exact Pass.echoes_replacing (fun node hnode hguard =>
    echoes_recoverGallery (hnode hguard "data-mw") hparse) hgalleries

/-! ## Parsing -/

/-- If text may be nested as deeply as it is long, it makes no difference how much more deeply it
    may be nested. -/
theorem echoes_parseWithin {depth depth' : Nat} {text : String} (hpos : 0 < depth)
    (hpos' : 0 < depth') (hdepth : text.length ≤ depth) (hdepth' : text.length ≤ depth')
    (hn : text.length < n) :
    (parseWithin ctx depth text).Echoes ctx.title n (parseWithin ctx depth' text) := by
  induction depth generalizing depth' text with
  | zero => exact absurd hpos (Nat.lt_irrefl 0)
  | succ depth ih =>
      obtain ⟨depth', rfl⟩ := Nat.exists_eq_succ_of_ne_zero (Nat.ne_of_gt hpos')
      refine .ask hn ?_
      refine echoes_parseRenderedWith (fun _ _ h => recovered_of_parseWithin h)
        fun inner hinner => ?_
      exact ih (by omega) (by omega) (by omega) (by omega) (by omega)

/-- A run in which HTML is parsed. All markup in it that is parsed too is shorter than the HTML. -/
structure Nests (title html : String) (run : Run σ Forest) : Prop where
  inTime : run.outcome ≠ .tooDeep
  calls : ∀ call ∈ run.calls, call.RendersBelow title html.length

/-- If every text is rendered to itself, whatever is parsed on the way through HTML is shorter than
    the HTML. So text that may be nested as deeply as it is long is parsed in time, and nothing
    changes if it may be nested more deeply. -/
theorem nests_of_rendersItself {σ : Type} (service : Call → StateM σ Answer)
    (hservice : RendersItself service) (ctx : Context) (text : String) (state : σ) :
    (∀ depth, text.length ≤ depth + 1 → Nests ctx.title text
      ((parseRenderedWith (parseWithin ctx depth) ctx text).observe service state)) ∧
    ∀ depth, 0 < depth → text.length ≤ depth →
      (∃ run : Run σ Forest, Nests ctx.title text run ∧
        (parseWithin ctx depth text).observe service state =
          run.after (.renderHtml ctx.title text, .ok text)) ∧
      ∀ depth' ≥ depth, (parseWithin ctx depth' text).observe service state =
        (parseWithin ctx depth text).observe service state := by
  have hrendered (state : σ) (depth : Nat) (hdepth : text.length ≤ depth + 1) :
      Nests ctx.title text
        ((parseRenderedWith (parseWithin ctx depth) ctx text).observe service state) := by
    have hechoes : (parseRenderedWith (parseWithin ctx depth) ctx text).Echoes ctx.title text.length
        (parseRenderedWith (parseWithin ctx depth) ctx text) :=
      echoes_parseRenderedWith (fun _ _ h => recovered_of_parseWithin h) fun inner hinner =>
        echoes_parseWithin (by omega) (by omega) (by omega) (by omega) (by omega)
    exact ⟨hechoes.outcome_ne hservice state, hechoes.forall_mem_calls hservice state⟩
  refine ⟨hrendered state, fun depth hpos hdepth => ⟨?_, fun depth' hle => ?_⟩⟩
  · obtain ⟨depth, rfl⟩ := Nat.exists_eq_succ_of_ne_zero (Nat.ne_of_gt hpos)
    refine ⟨_, hrendered (service (.renderHtml ctx.title text) state).2 depth hdepth, ?_⟩
    exact Session.observe_request_of_ok (hservice ctx.title text state)
  · have hechoes := @echoes_parseWithin (text.length + 1) ctx depth' depth text (by omega) hpos
      (by omega) hdepth (Nat.lt_succ_self _)
    exact hechoes.observe_eq hservice state

/-- A service that renders every text to itself. -/
def echoing : Call → StateM Unit Answer
  | .renderHtml _ text => return .ok text
  | .getContent _ => return .ok ""

theorem nests_of_rendersItself_galleryInWarning :
    RendersItself echoing ∧
      Nests "Title" galleryInWarning
        ((parseRenderedWith (parseWithin ⟨"Title", 1⟩ 150) ⟨"Title", 1⟩ galleryInWarning).observe
          echoing ()) ∧
      (parseWithin ⟨"Title", 1⟩ 1000 galleryInWarning).observe echoing () =
        (parseWithin ⟨"Title", 1⟩ 150 galleryInWarning).observe echoing () ∧
      ((parseWithin ⟨"Title", 1⟩ 150 galleryInWarning).observe echoing ()).calls =
        [.renderHtml "Title" galleryInWarning, .renderHtml "Title" "gallery"] := by
  have hservice : RendersItself echoing := fun _ _ _ => rfl
  have hlength : galleryInWarning.length ≤ 150 := by decide +kernel
  obtain ⟨hrendered, hmarkup⟩ :=
    nests_of_rendersItself echoing hservice ⟨"Title", 1⟩ galleryInWarning ()
  refine ⟨hservice, hrendered 150 (Nat.le_succ_of_le hlength), ?_, by decide +kernel⟩
  exact (hmarkup 150 (by decide) hlength).2 1000 (by decide)

end Markup

end ArticleTree
