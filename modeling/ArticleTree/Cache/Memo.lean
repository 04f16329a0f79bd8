import ArticleTree.Cache.Store
import ArticleTree.Digest.Stable
import ArticleTree.Session

/-! # Remembering answers

A cache stands in front of a content service. An answer that was stored is given again
without a call of the service; other calls are passed on, and their answers are stored
unless they are failures.
-/

namespace ArticleTree

/-- The name of what a call asks for. -/
def Call.function : Call → String
  | getContent _ => "get_content"
  | renderHtml _ _ => "render_html"

def Call.args : Call → List String
  | getContent title => [title]
  | renderHtml title text => [title, text]

/-- The key under which the answer to a call is stored. -/
def Call.key (digest : String → String) (call : Call) : String :=
  Digest.ofCall digest call.function call.args []

namespace Cache

/-- A store, and how often it had an answer and how often it had none. -/
structure Memo where
  store : Store
  hits : Nat
  misses : Nat
  deriving DecidableEq, Repr

namespace Memo

def fresh (store : Store) : Memo := ⟨store, 0, 0⟩

/-- Store an answer, unless it is a failure. -/
def remember (key : String) (answer : Answer) (memo : Memo) : Memo :=
  match answer with
  | .ok text => { memo with store := memo.store.put key text }
  | .error _ => memo

/-- Answer a call from the store, or have the service answer it. -/
def answer {m : Type → Type} [Monad m] (digest : String → String) (service : Call → m Answer)
    (call : Call) (memo : Memo) : m (Answer × Memo) :=
  let key := call.key digest
  match memo.store.get? key with
  | some text => pure (.ok text, { memo with hits := memo.hits + 1 })
  | none => do
      let answer ← service call
      return (answer, { memo with misses := memo.misses + 1 }.remember key answer)

end Memo

end Cache

end ArticleTree
