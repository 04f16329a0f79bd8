import ArticleTree.Failure
import ArticleTree.Html.Builder
import ArticleTree.Html.Tokenizer

/-! # Parsing HTML -/

namespace ArticleTree.Html

/-- The text and element nodes of tokens. Tokens that are not balanced are refused. -/
def ofTokens (tokens : List Token) : Except Failure Forest :=
  match forestOf tokens with
  | .ok nodes => .ok nodes
  | .error unbalanced => .error (.markup unbalanced.message)

theorem ofTokens_eq_ok {tokens : List Token} {nodes : Forest} :
    ofTokens tokens = .ok nodes ↔ forestOf tokens = .ok nodes := by
  unfold ofTokens
  split <;> simp_all

theorem ofTokens_of_error {tokens : List Token} {unbalanced : Unbalanced}
    (h : forestOf tokens = .error unbalanced) :
    ofTokens tokens = .error (.markup unbalanced.message) := by
  rw [ofTokens, h]

/-- The text and element nodes of HTML text. Text that is not balanced is refused. -/
def parse (html : String) : Except Failure Forest :=
  ofTokens (tokenize html)

end ArticleTree.Html
