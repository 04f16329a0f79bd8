import ArticleTree.Proofs.Node.Live
import Mathlib.Algebra.Ring.Nat

/-! # Counting live nodes -/

namespace ArticleTree

/-- How many live nodes of the forest the condition holds for. -/
def countLive (condition : Node → Bool) : Forest → Nat
  | [] => 0
  | n :: rest =>
      (if condition n then 1 else 0) +
        (n.sequences.attach.map fun s => countLive condition s.1).sum + countLive condition rest
termination_by nodes => Node.weightAll nodes
decreasing_by
  · exact Node.weightAll_lt_of_mem_sequences List.mem_cons_self s.2
  · exact Node.weightAll_lt_cons n rest

variable {condition : Node → Bool}

@[simp] theorem countLive_nil : countLive condition [] = 0 := by
  rw [countLive]

theorem countLive_cons (n : Node) (rest : Forest) :
    countLive condition (n :: rest) = (if condition n then 1 else 0) +
      (n.sequences.map (countLive condition)).sum + countLive condition rest := by
  rw [countLive]
  simp only [List.map_subtype, List.unattach_attach]

theorem countLive_singleton (n : Node) :
    countLive condition [n] = (if condition n then 1 else 0) +
      (n.sequences.map (countLive condition)).sum := by
  rw [countLive_cons, countLive_nil, Nat.add_zero]

theorem countLive_append (xs ys : Forest) :
    countLive condition (xs ++ ys) = countLive condition xs + countLive condition ys := by
  induction xs with
  | nil => simp
  | cons n rest ih => rw [List.cons_append, countLive_cons, countLive_cons, ih]; omega

/-- The nodes of a forest are counted one by one. -/
theorem countLive_eq_sum (nodes : Forest) :
    countLive condition nodes = (nodes.map fun n => countLive condition [n]).sum := by
  induction nodes with
  | nil => simp
  | cons n rest ih =>
      rw [List.map_cons, List.sum_cons, ← ih, ← countLive_append, List.singleton_append]

end ArticleTree
