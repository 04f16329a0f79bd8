import ArticleTree.Wiki.Client

/-! # Servers that always answer alike

A server that always answers a request alike makes the wiki a content service that always
answers a call alike, and asking it changes nothing else.
-/

namespace ArticleTree

variable {m : Type → Type} [Monad m] [LawfulMonad m]

namespace Http

theorem exchange_pure (server : Request → Option Response) (most : Nat) (request : Request) :
    exchange (m := m) (fun request => pure (server request)) most request =
      pure (exchange (m := Id) server most request) := by
  induction most generalizing request with
  | zero =>
      rw [exchange, exchange]
      split
      · cases server request with
        | none => exact pure_bind _ _
        | some response =>
            rw [pure_bind]
            cases hnext : followUp? request response with
            | none =>
                simp only [bind, hnext]
                rfl
            | some next =>
                simp only [bind, hnext]
                rfl
      · rfl
  | succ most ih =>
      rw [exchange, exchange]
      split
      · cases server request with
        | none => exact pure_bind _ _
        | some response =>
            rw [pure_bind]
            cases hnext : followUp? request response with
            | none =>
                simp only [bind, hnext]
                rfl
            | some next =>
                simp only [bind, hnext]
                exact ih next
      · rfl

end Http

namespace Wiki.Client

/-- What the wiki answers to a call, if its servers always answer a request alike. -/
def told (server : Http.Request → Option Http.Response) (client : Client) (call : Call) : Answer :=
  client.answer (m := Id) server call

variable (server : Http.Request → Option Http.Response)

theorem ask_pure (url : Url) (request : Http.Request) (read : Http.Response → Answer) :
    ask (m := m) (fun request => pure (server request)) url request read =
      pure (ask (m := Id) server url request read) := by
  rw [ask, Http.exchange_pure, pure_bind, ask]
  cases Http.exchange (m := Id) server maxRedirects request <;> rfl

theorem answer_pure (client : Client) (call : Call) :
    client.answer (m := m) (fun request => pure (server request)) call =
      pure (client.told server call) := by
  cases call with
  | getContent title => exact ask_pure server _ _ _
  | renderHtml title text =>
      rw [told, answer, answer, renderHtml, renderHtml]
      cases client.renderUrl title with
      | error reason => rfl
      | ok url => exact ask_pure server _ _ _

end Wiki.Client

end ArticleTree
