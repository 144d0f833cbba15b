import GemSurvey.Proofs.Path.Place
import Mathlib.Data.Char
import Mathlib.Data.List.Lex
import Mathlib.Data.Prod.Lex

/-! The order of paths: that of their components' keys, word by word. Paths that no two share their
components have one order only, so how they were listed before does not show once they are sorted. -/
namespace GemSurvey.Path

def Component.key (c : Component) : Nat ×ₗ Text := toLex c.rank

theorem keyInj : Function.Injective Component.key := by
  intro a b same
  cases a <;> cases b <;> simp_all [Component.key, Component.rank]

theorem precedesIff {a b : Component} : a.precedes b = true ↔ a.key < b.key := by
  simp [Component.precedes, Component.key, Prod.Lex.toLex_lt_toLex]

theorem componentsLeIff {as bs : List Component} :
    componentsLe as bs = true ↔ as.map Component.key ≤ bs.map Component.key := by
  rw [← not_lt]
  induction as generalizing bs with
  | nil =>
    have least : ¬ bs.map Component.key < [] := List.not_lt_nil _
    simp [componentsLe, least]
  | cons a as ih => cases bs with
    | nil => simp [componentsLe]
    | cons b bs =>
      have first : (b :: bs).map Component.key < (a :: as).map Component.key ↔
          b.key < a.key ∨ b.key = a.key ∧ bs.map Component.key < as.map Component.key :=
        List.cons_lt_cons_iff
      rw [componentsLe, Bool.or_eq_true, Bool.and_eq_true, beq_iff_eq, precedesIff, ih, first,
        ← keyInj.eq_iff]
      rcases lt_trichotomy a.key b.key with less | same | more
      · simp [less, less.ne', less.not_gt]
      · simp [same]
      · simp [more, more.ne', more.not_gt]

theorem leIff {p q : Path} :
    p.le q = true ↔ p.components.map Component.key ≤ q.components.map Component.key :=
  componentsLeIff

theorem leAntisymm {p q : Path} (before : p.le q = true) (after : q.le p = true) :
    p.components = q.components :=
  keyInj.list_map (le_antisymm (leIff.mp before) (leIff.mp after))

theorem sortedOrdered (ps : List Path) : (sorted ps).Pairwise fun p q => p.le q = true := by
  refine List.pairwise_mergeSort (fun p q r first second => ?_) (fun p q => ?_) ps
  · exact leIff.mpr (le_trans (leIff.mp first) (leIff.mp second))
  · rw [Bool.or_eq_true, leIff, leIff]
    exact le_total _ _

theorem sortedSame {ps qs : List Path} (same : ps.Perm qs)
    (apart : ∀ p ∈ ps, ∀ q ∈ ps, p.components = q.components → p = q) : sorted ps = sorted qs := by
  have perm : (sorted ps).Perm (sorted qs) :=
    ((List.mergeSort_perm ps le).trans same).trans (List.mergeSort_perm qs le).symm
  refine List.Perm.eq_of_pairwise (fun p q left right before after => ?_) (sortedOrdered ps)
    (sortedOrdered qs) perm
  exact apart p (List.mem_mergeSort.mp left) q (same.mem_iff.mpr (List.mem_mergeSort.mp right))
    (leAntisymm before after)

end GemSurvey.Path
