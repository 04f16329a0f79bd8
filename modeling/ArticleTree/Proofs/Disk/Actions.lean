import ArticleTree.Disk.Machine
import ArticleTree.Proofs.Disk.Files

/-! # Actions on a machine in memory

An action of a command changes the machine and ends with a value or a failure. A failure ends
the actions after it too, but what was done before it stays done.
-/

namespace ArticleTree

namespace Text

theorem fromUTF8?_toUTF8 (s : String) : String.fromUTF8? s.toUTF8 = some s := by
  have h : ∃ h : s.toUTF8.IsValidUTF8, String.fromUTF8 s.toUTF8 h = s := ⟨s.isValidUTF8, rfl⟩
  simpa [String.fromUTF8?] using h

end Text

namespace DiskMachine

variable {α β : Type} {home : String} {server : Http.Request → Option Http.Response}
  {state after : DiskMachine} {path text : String}

/-- Carry out an action. -/
def perform (action : ExceptT Failure (StateM DiskMachine) α) (state : DiskMachine) :
    Except Failure α × DiskMachine :=
  action.run.run state

section

variable {action : ExceptT Failure (StateM DiskMachine) α}
  {k : α → ExceptT Failure (StateM DiskMachine) β}

@[simp] theorem perform_pure (value : α) : perform (pure value) state = (.ok value, state) := rfl

theorem perform_bind (action : ExceptT Failure (StateM DiskMachine) α)
    (k : α → ExceptT Failure (StateM DiskMachine) β) (state : DiskMachine) :
    perform (action >>= k) state =
      match perform action state with
      | (.ok value, after) => perform (k value) after
      | (.error reason, after) => (.error reason, after) := by
  simp only [perform, ExceptT.run_bind, StateT.run_bind]
  change (match action.run.run state with | (result, after) => _) = _
  cases action.run.run state with
  | mk result after => cases result <;> rfl

theorem perform_bind_of_ok {value : α} (h : perform action state = (.ok value, after)) :
    perform (action >>= k) state = perform (k value) after := by
  rw [perform_bind, h]

theorem perform_bind_of_error {reason : Failure}
    (h : perform action state = (.error reason, after)) :
    perform (action >>= k) state = (.error reason, after) := by
  rw [perform_bind, h]

end

/-! ## Files and directories -/

theorem run_change (f : Disk → Except String Disk) (state : DiskMachine) :
    (change f).run state =
      match f state.disk with
      | .ok disk => (.ok (), { state with disk })
      | .error reason => (.error reason, state) := by
  cases h : f state.disk with
  | ok disk =>
      simp [change, h]
      rfl
  | error reason =>
      simp [change, h]
      rfl

theorem perform_orFail (path : String) (action : StateM DiskMachine (Except String α))
    (state : DiskMachine) :
    perform (Machine.orFail path action) state =
      match action.run state with
      | (.ok value, after) => (.ok value, after)
      | (.error reason, after) => (.error (.io path reason), after) := by
  simp only [perform, Machine.orFail, ExceptT.run_mk, StateT.run_bind]
  change (match action.run state with | (result, after) => _) = _
  cases action.run state with
  | mk result after => cases result <;> rfl

theorem perform_writeText (path text : String) (state : DiskMachine) :
    perform ((machine home server).writeText path text) state =
      match state.disk.write path text.toUTF8 with
      | .ok disk => (.ok (), { state with disk })
      | .error reason => (.error (.io path reason), state) := by
  rw [Machine.writeText, perform_orFail, machine, run_change]
  cases state.disk.write path text.toUTF8 <;> rfl

theorem perform_needDirectory (path : String) (state : DiskMachine) :
    perform ((machine home server).needDirectory path) state =
      match state.disk.makeDirectories path with
      | .ok disk => (.ok (), { state with disk })
      | .error reason => (.error (.io path reason), state) := by
  rw [Machine.needDirectory, perform_orFail, machine, run_change]
  cases state.disk.makeDirectories path <;> rfl

/-- The text of a file, or why it cannot be read. -/
def textAt (disk : Disk) (path : String) : Except Failure String :=
  match disk.read path with
  | .error reason => .error (.io path reason)
  | .ok content =>
      match String.fromUTF8? content with
      | some text => .ok text
      | none => .error (.io path "stream did not contain valid UTF-8")

theorem exists_of_textAt {disk : Disk} (h : textAt disk path = .ok text) :
    ∃ content, disk.entry? (Path.landing disk.current path) = some (.file content) ∧
      String.fromUTF8? content = some text := by
  rw [textAt] at h
  split at h
  · cases h
  · rename_i content hread
    split at h
    · rename_i hutf8
      cases h
      exact ⟨content, Disk.file_of_read hread, hutf8⟩
    · cases h

theorem perform_readText (path : String) (state : DiskMachine) :
    perform ((machine home server).readText path) state = (textAt state.disk path, state) := by
  have hread : perform (Machine.orFail path ((machine home server).read path)) state =
      match state.disk.read path with
      | .ok content => (.ok content, state)
      | .error reason => (.error (.io path reason), state) := by
    have hrun : ((machine home server).read path).run state = (state.disk.read path, state) := rfl
    rw [perform_orFail, hrun]
    cases state.disk.read path <;> rfl
  rw [Machine.readText, textAt]
  cases h : state.disk.read path with
  | error reason =>
      rw [h] at hread
      exact perform_bind_of_error hread
  | ok content =>
      rw [h] at hread
      rw [perform_bind_of_ok hread]
      dsimp only
      cases String.fromUTF8? content <;> rfl

theorem perform_isThere (path : String) :
    perform (liftM ((machine home server).isThere path)) state =
      (.ok (state.disk.isThere path), state) := rfl

/-! ## What actions uphold -/

/-- The action leaves a machine with the property in a state with the property, and what it ends
    with has a property too. -/
def Upholds (P : DiskMachine → Prop) (action : ExceptT Failure (StateM DiskMachine) α)
    (Q : α → Prop) : Prop :=
  ∀ state, P state → P (perform action state).2 ∧
    ∀ value, (perform action state).1 = .ok value → Q value

section

variable {P : DiskMachine → Prop} {Q : α → Prop} {R : β → Prop}
  {action : ExceptT Failure (StateM DiskMachine) α}
  {k : α → ExceptT Failure (StateM DiskMachine) β}

theorem Upholds.keeps (h : Upholds P action Q) (hstate : P state) : P (perform action state).2 :=
  (h state hstate).1

theorem Upholds.value (h : Upholds P action Q) (hstate : P state) {value : α}
    (hrun : perform action state = (.ok value, after)) : Q value :=
  (h state hstate).2 value (congrArg Prod.fst hrun)

theorem Upholds.imp {Q' : α → Prop} (h : Upholds P action Q) (hvalue : ∀ value, Q value → Q' value) :
    Upholds P action Q' := by
  intro state hstate
  obtain ⟨hafter, hresult⟩ := h state hstate
  exact ⟨hafter, fun value hrun => hvalue value (hresult value hrun)⟩

theorem upholds_pure {value : α} (h : Q value) : Upholds P (pure value) Q := by
  intro state hstate
  refine ⟨hstate, ?_⟩
  rintro _ ⟨⟩
  exact h

theorem upholds_throw (reason : Failure) : Upholds P (throw reason) Q := by
  intro state hstate
  refine ⟨hstate, ?_⟩
  rintro _ ⟨⟩

theorem Upholds.bind (h : Upholds P action Q) (hk : ∀ value, Q value → Upholds P (k value) R) :
    Upholds P (action >>= k) R := by
  intro state hstate
  obtain ⟨hafter, hvalue⟩ := h state hstate
  rw [perform_bind]
  cases hrun : perform action state with
  | mk result after =>
      rw [hrun] at hafter hvalue
      cases result with
      | ok value => exact hk value (hvalue value rfl) after hafter
      | error reason =>
          refine ⟨hafter, ?_⟩
          rintro _ ⟨⟩

theorem upholds_isThere : Upholds P (liftM ((machine home server).isThere path)) fun _ => True :=
  fun _ hstate => ⟨hstate, fun _ _ => trivial⟩

end

end DiskMachine

end ArticleTree
