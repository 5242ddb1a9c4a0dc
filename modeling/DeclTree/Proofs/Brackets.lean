import DeclTree.Scope
import Mathlib.Data.List.Induction

/-!
# Bracketed operations on a scope

In stack mode an enter and the exit that closes it stand around the operations between
them like brackets. The names set inside a pair are forgotten where it closes, whatever
the pairs within; only those set outside all pairs stay (`brackets_restore_the_scope`).

A list of operations is followed with the number of brackets that are still open
(`Closes`). An exit then takes the scope back to what it was under the innermost of
these, so a list that closes them all leaves what is saved below (`run_of_closes`).

In flat mode nothing is saved and no exit is seen.
-/

namespace DeclTree.Scope

inductive Op where
  | enter (name : String)
  | exit
  | set (name : String)
  | reset
  deriving DecidableEq, Repr

namespace Op

def apply (s : Scope) : Op → Scope
  | enter name => s.enter name
  | exit => s.exit
  | set name => s.set name
  | reset => s.reset

def isEnter : Op → Bool
  | enter _ => true
  | _ => false

/-- The name that an operation makes current. -/
def name? : Op → Option String
  | enter name => some name
  | set name => some name
  | _ => none

end Op

def run (s : Scope) (ops : List Op) : Scope := ops.foldl Op.apply s

def opened (ops : List Op) : Nat := ops.countP Op.isEnter

def closed (ops : List Op) : Nat := ops.count .exit

/-- After `depth` enters, every exit closes one of them or an enter of the list, and no bracket
stays open. -/
structure Closes (depth : Nat) (ops : List Op) : Prop where
  noReset : .reset ∉ ops
  inTurn : ∀ front, front <+: ops → closed front ≤ depth + opened front
  all : closed ops = depth + opened ops

/-- Every exit closes an enter, and every enter is closed. -/
def Bracketed (ops : List Op) : Prop := Closes 0 ops

/-- The name that is set last outside all brackets, when `depth` of them are open. -/
def lastOutside : Nat → List Op → Option String
  | _, [] => none
  | depth, .enter _ :: rest => lastOutside (depth + 1) rest
  | depth, .exit :: rest => lastOutside (depth - 1) rest
  | 0, .set name :: rest => (lastOutside 0 rest).or (some name)
  | depth + 1, .set _ :: rest => lastOutside (depth + 1) rest
  | depth, .reset :: rest => lastOutside depth rest

/-- The name that the last enter or set after the last reset makes current. -/
def lastNamed (ops : List Op) : Option String :=
  (ops.reverse.takeWhile (· != .reset)).findSome? Op.name?

/-- The name that is current again after so many exits. -/
def outer (s : Scope) (depth : Nat) : Option String := (s.current :: s.saved).getD depth none

theorem opened_append (ops more : List Op) : opened (ops ++ more) = opened ops + opened more :=
  List.countP_append

theorem closed_append (ops more : List Op) : closed (ops ++ more) = closed ops + closed more :=
  List.count_append

section Closes

variable {depth : Nat} {name : String} {rest : List Op}

theorem closes_nil_iff : Closes depth [] ↔ depth = 0 := by
  constructor
  · intro h
    exact h.all.symm
  · rintro rfl
    exact ⟨List.not_mem_nil, fun front hfront => by simp [List.prefix_nil.mp hfront, closed], rfl⟩

/-- The first operation finds a bracket to close, and the rest closes what is then open. -/
theorem closes_cons_iff {op : Op} (hop : op ≠ .reset) :
    Closes depth (op :: rest) ↔
      closed [op] ≤ depth + opened [op] ∧ Closes (depth + opened [op] - closed [op]) rest := by
  have hclosed : ∀ ops, closed (op :: ops) = closed [op] + closed ops := closed_append [op]
  have hopened : ∀ ops, opened (op :: ops) = opened [op] + opened ops := opened_append [op]
  constructor
  · rintro ⟨hreset, hturn, hall⟩
    have hfirst := hturn [op] ⟨rest, rfl⟩
    refine ⟨hfirst, (List.ne_and_not_mem_of_not_mem_cons hreset).2, fun front hfront => ?_, ?_⟩
    · have hlonger := hturn (op :: front) (List.cons_prefix_cons.mpr ⟨rfl, hfront⟩)
      rw [hclosed, hopened] at hlonger
      omega
    · rw [hclosed, hopened] at hall
      omega
  · rintro ⟨hfirst, hreset, hturn, hall⟩
    refine ⟨List.not_mem_cons_of_ne_of_not_mem (Ne.symm hop) hreset, fun front hfront => ?_, ?_⟩
    · rcases List.prefix_cons_iff.mp hfront with rfl | ⟨front, rfl, hshort⟩
      · exact Nat.zero_le _
      · have hshorter := hturn front hshort
        rw [hclosed, hopened]
        omega
    · rw [hclosed, hopened]
      omega

theorem closes_enter_iff : Closes depth (.enter name :: rest) ↔ Closes (depth + 1) rest := by
  have hop : Op.enter name ≠ .reset := nofun
  exact (closes_cons_iff hop).trans (and_iff_right (Nat.zero_le _))

theorem closes_set_iff : Closes depth (.set name :: rest) ↔ Closes depth rest := by
  have hop : Op.set name ≠ .reset := nofun
  exact (closes_cons_iff hop).trans (and_iff_right (Nat.zero_le _))

theorem closes_exit_iff : Closes depth (.exit :: rest) ↔ 1 ≤ depth ∧ Closes (depth - 1) rest :=
  closes_cons_iff nofun

theorem not_closes_reset : ¬ Closes depth (.reset :: rest) :=
  fun h => h.noReset List.mem_cons_self

end Closes

theorem run_cons (s : Scope) (op : Op) (rest : List Op) : s.run (op :: rest) = (op.apply s).run rest :=
  rfl

theorem run_append (s : Scope) (ops more : List Op) : s.run (ops ++ more) = (s.run ops).run more :=
  List.foldl_append

/-- A list that closes `depth` brackets goes back to the scope under them, except for the name that
it sets outside all. -/
theorem run_of_closes {depth : Nat} {ops : List Op} (h : Closes depth ops) {s : Scope}
    (hmode : s.mode = .stack) (hdepth : depth ≤ s.saved.length) :
    s.run ops =
      ⟨.stack, (lastOutside depth ops).or (s.outer depth), s.saved.drop depth⟩ := by
  -- the depth goes with the scope: an enter saves one more name, an exit takes one back
  induction ops generalizing depth s with
  | nil =>
    obtain rfl := closes_nil_iff.mp h
    obtain ⟨mode, current, saved⟩ := s
    cases hmode
    rfl
  | cons op rest ih =>
    obtain ⟨mode, current, saved⟩ := s
    cases hmode
    rw [run_cons]
    cases op with
    | enter name =>
      have hinside : depth + 1 ≤ (current :: saved).length := Nat.succ_le_succ hdepth
      exact ih (closes_enter_iff.mp h) (s := ⟨.stack, some name, current :: saved⟩) rfl hinside
    | exit =>
      obtain ⟨hopen, hrest⟩ := closes_exit_iff.mp h
      obtain ⟨below, rfl⟩ := Nat.exists_eq_add_of_le' hopen
      match saved, hdepth with
      | outside :: saved, hdepth =>
        exact ih hrest (s := ⟨.stack, outside, saved⟩) rfl (Nat.le_of_succ_le_succ hdepth)
    | set name =>
      have hset := ih (closes_set_iff.mp h) (s := ⟨.stack, some name, saved⟩) rfl hdepth
      cases depth with
      | zero =>
        refine hset.trans ?_
        rw [lastOutside, Option.or_assoc]
        rfl
      | succ depth => exact hset
    | reset => exact absurd h not_closes_reset

/-- An exit is not seen in flat mode, and nothing is saved for it. -/
theorem run_flat (ops : List Op) : (new .flat).run ops = ⟨.flat, lastNamed ops, []⟩ := by
  induction ops using List.reverseRecOn with
  | nil => rfl
  | append_singleton ops op ih =>
    have hlast : lastNamed (ops ++ [op]) =
        ((op :: ops.reverse).takeWhile (· != .reset)).findSome? Op.name? := by
      rw [lastNamed, List.reverse_append, List.reverse_singleton, List.singleton_append]
    rw [run_append, ih, hlast]
    cases op <;> rfl

/-- In stack mode an enter, bracketed operations and an exit change nothing at all. Bracketed
operations alone leave the saved names as they are, and current is the name that was set last
outside all brackets. In flat mode it is the name that was entered or set last since a reset. -/
theorem brackets_restore_the_scope :
    (∀ (s : Scope) (ops : List Op), s.mode = .stack → Bracketed ops →
      (∀ name, s.run (.enter name :: ops ++ [.exit]) = s) ∧
      (s.run ops).saved = s.saved ∧
      (s.run ops).current = (lastOutside 0 ops).or s.current) ∧
    ∀ ops : List Op, ((new .flat).run ops).current = lastNamed ops ∧
      ((new .flat).run ops).saved = [] := by
  refine ⟨fun s ops hmode hops => ?_, fun ops => ?_⟩
  · have hrun : ∀ t : Scope, t.mode = .stack →
        t.run ops = ⟨.stack, (lastOutside 0 ops).or t.current, t.saved⟩ :=
      fun t ht => run_of_closes hops ht (Nat.zero_le _)
    refine ⟨fun name => ?_, ?_, ?_⟩
    · have hinside : (s.enter name).mode = .stack := by rw [enter, hmode]
      have hsaved : (s.enter name).saved = s.current :: s.saved := by rw [enter, hmode]
      rw [List.cons_append, run_cons, run_append, Op.apply, hrun _ hinside, hsaved]
      obtain ⟨mode, current, saved⟩ := s
      cases hmode
      rfl
    · rw [hrun s hmode]
    · rw [hrun s hmode]
  · rw [run_flat]
    exact ⟨rfl, rfl⟩

/-- Two names are set inside brackets and one between them. -/
theorem brackets_restore_the_scope_nested :
    let s : Scope := ⟨.stack, some "A", [none]⟩
    let ops : List Op :=
      [.enter "B", .set "C", .enter "D", .exit, .exit, .set "E", .enter "F", .set "G", .exit]
    s.mode = .stack ∧ Bracketed ops ∧ s.run (.enter "N" :: ops ++ [.exit]) = s ∧
      (s.run ops).saved = [none] ∧ (s.run ops).current = some "E" := by
  intro s ops
  have hops : Bracketed ops := by
    simp [ops, Bracketed, closes_enter_iff, closes_set_iff, closes_exit_iff, closes_nil_iff]
  obtain ⟨hrestored, hsaved, hcurrent⟩ := brackets_restore_the_scope.1 s ops rfl hops
  exact ⟨rfl, hops, hrestored "N", hsaved, hcurrent⟩

end DeclTree.Scope
