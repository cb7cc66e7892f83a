/-
  Sift.Proofs.Operator.History
  ────────────────────────────
  **What a table of operators holds after any calls.**

  A table starts empty and is changed by two kinds of calls: adding refuses an identifier that is
  there, putting replaces the operator of it.  Nothing is ever removed, so what the table holds
  can be told from the calls that were granted, in their order:

      an identifier stands where it was first granted    (`Keeps.inOrder`)
      its operator is the one that was granted last      (`Keeps.find`)

  One granted call keeps this (`Keeps.grant`), whichever of the two it was, and so does every
  history by induction from its end.  A field subject puts its operators, so it holds them likewise.

  Main result: `keeps_first_places_and_last_operators`.
-/
import Mathlib.Data.List.Induction
import Mathlib.Data.List.Nodup
import Sift.Proofs.Operator.Table
import Sift.Subject.Basic

namespace Sift.OperatorTable

/-! ## §1. Calls -/

/-- A call that may change a table. -/
inductive Call where
  | add (operator : Operator)
  | put (operator : Operator)

/-- The operator of a call. -/
def Call.operator : Call → Operator
  | add operator | put operator => operator

/-- **A call on a table**: the table after it, and the outcome.  After a refused call the table is
the one before. -/
def perform (table : OperatorTable) : Call → OperatorTable × Except Error Unit
  | .add operator =>
    match (table.add operator).outcome with
    | .ok changed => (changed, .ok ())
    | .error error => (table, .error error)
  | .put operator => (table.put operator, .ok ())

/-- A table with the calls that led to it and their outcomes, in order. -/
structure History where
  table : OperatorTable
  transcript : List (Call × Except Error Unit)

/-- One call more. -/
def History.call (h : History) (call : Call) : History where
  table := (h.table.perform call).1
  transcript := h.transcript ++ [(call, (h.table.perform call).2)]

/-- **The history of some calls** on a table that starts empty. -/
def history (calls : List Call) : History := calls.foldl History.call ⟨.empty, []⟩

/-- The last call comes after the history of the others. -/
theorem history_concat (calls : List Call) (call : Call) :
    history (calls ++ [call]) = (history calls).call call := by
  unfold history
  rw [List.foldl_append, List.foldl_cons, List.foldl_nil]

/-- The operator of a call that was granted. -/
def granted? : Call × Except Error Unit → Option Operator
  | (call, .ok ()) => some call.operator
  | (_, .error _) => none

/-- **The operators of the granted calls**, in order. -/
def granted (transcript : List (Call × Except Error Unit)) : List Operator :=
  transcript.filterMap granted?

/-- The last call comes after what was granted before. -/
theorem granted_concat (transcript : List (Call × Except Error Unit))
    (entry : Call × Except Error Unit) :
    granted (transcript ++ [entry]) = granted transcript ++ (granted? entry).toList := by
  unfold granted
  rw [List.filterMap_append]
  cases last : granted? entry <;> simp [last]

/-! ## §2. What granted operators leave -/

/-- The operator was granted last under its identifier. -/
def IsLast (granted : List Operator) (id : String) (operator : Operator) : Prop :=
  ∃ earlier later, granted = earlier ++ operator :: later ∧ operator.id = id
    ∧ ∀ o ∈ later, o.id ≠ id

/-- **The table that granted operators leave.** -/
structure Keeps (granted : List Operator) (table : OperatorTable) : Prop where
  /-- Every identifier is there once. -/
  distinct : table.ids.Nodup
  /-- The identifiers are those that were granted. -/
  mem_ids : ∀ id, id ∈ table.ids ↔ id ∈ granted.map (·.id)
  /-- They stand in the order in which they were first granted. -/
  inOrder : table.ids.Pairwise fun a b =>
    (granted.map (·.id)).idxOf a < (granted.map (·.id)).idxOf b
  /-- The operator of an identifier is the last one granted. -/
  find : ∀ id operator, table.find id = .ok operator ↔ IsLast granted id operator
  /-- An identifier has no operator exactly where none was granted. -/
  missing : ∀ id, table.find id = .error (.noOperator id) ↔ id ∉ granted.map (·.id)
  contains : ∀ id, table.contains id = true ↔ id ∈ table.ids
  size : table.size = table.ids.length
  isEmpty : table.isEmpty = true ↔ table.ids = []

/-- **What one call does**: the table before, the call, the table after and the outcome. -/
def Effect (before : OperatorTable) : Call → OperatorTable → Except Error Unit → Prop
  | .add operator, after, outcome =>
    if operator.id ∈ before.ids then
      after = before ∧ outcome = .error (.alreadyRegistered .operator operator.id)
    else after.operators = before.operators ++ [operator] ∧ outcome = .ok ()
  | .put operator, after, outcome =>
    outcome = .ok () ∧
      if operator.id ∈ before.ids then
        after.ids = before.ids ∧ ∀ (n : Nat) (o : Operator), before.operators[n]? = some o →
          after.operators[n]? = some (if o.id = operator.id then operator else o)
      else after.operators = before.operators ++ [operator]

/-! ## §3. One call -/

/-- Putting under a new identifier adds at the end. -/
theorem operators_put_of_fresh {table : OperatorTable} {operator : Operator}
    (fresh : operator.id ∉ table.ids) :
    (table.put operator).operators = table.operators ++ [operator] := by
  unfold put
  rw [dif_neg (by simpa [contains] using fresh)]

/-- Putting under a known identifier replaces its operator where it stands. -/
theorem operators_put_of_known {table : OperatorTable} {operator : Operator}
    (known : operator.id ∈ table.ids) :
    (table.put operator).operators = replaceIn operator table.operators := by
  unfold put
  rw [dif_pos (by simpa [contains] using known)]

/-- Adding under a known identifier is refused. -/
theorem perform_add_of_known {table : OperatorTable} {operator : Operator}
    (known : operator.id ∈ table.ids) : table.perform (.add operator) =
      (table, .error (.alreadyRegistered .operator operator.id)) := by
  unfold perform
  simp only [add_eq_error_iff.2 ⟨known, rfl⟩]

/-- Adding under a new identifier is granted. -/
theorem perform_add_of_fresh {table : OperatorTable} {operator : Operator}
    (fresh : operator.id ∉ table.ids) : ∃ changed, table.perform (.add operator) =
      (changed, .ok ()) ∧ changed.operators = table.operators ++ [operator] := by
  cases outcome : (table.add operator).outcome with
  | error error => exact absurd (add_eq_error_iff.1 outcome).1 fresh
  | ok changed =>
    refine ⟨changed, ?_, operators_of_add outcome⟩
    unfold perform
    simp only [outcome]

/-- **Every call has its effect.** -/
theorem effect_perform (table : OperatorTable) (call : Call) :
    Effect table call (table.perform call).1 (table.perform call).2 := by
  cases call with
  | add operator =>
    show if operator.id ∈ table.ids then _ else _
    by_cases known : operator.id ∈ table.ids
    · rw [if_pos known, perform_add_of_known known]
      exact ⟨rfl, rfl⟩
    · obtain ⟨changed, performed, added⟩ := perform_add_of_fresh known
      rw [if_neg known, performed]
      exact ⟨added, rfl⟩
  | put operator =>
    -- `put` never fails: it takes the place of a known operator or goes to the end.
    refine ⟨rfl, ?_⟩
    show if operator.id ∈ table.ids then (table.put operator).ids = table.ids
      ∧ ∀ (n : Nat) (o : Operator), table.operators[n]? = some o →
        (table.put operator).operators[n]? = some (if o.id = operator.id then operator else o)
      else (table.put operator).operators = table.operators ++ [operator]
    by_cases known : operator.id ∈ table.ids
    · rw [if_pos known, ids, operators_put_of_known known, map_id_replaceIn]
      refine ⟨rfl, fun n o there => ?_⟩
      rw [replaceIn, List.getElem?_map, there]
      rfl
    · rw [if_neg known]
      exact operators_put_of_fresh known

/-! ## §4. Finding -/

/-- **An identifier finds the operator that has it.** -/
theorem find_eq_ok_iff {table : OperatorTable} {id : String} {operator : Operator} :
    table.find id = .ok operator ↔ operator.id = id ∧ operator ∈ table.operators := by
  refine ⟨of_find_eq_ok, ?_⟩
  rintro ⟨rfl, member⟩
  unfold find
  cases found : table.operators.find? (·.id == operator.id) with
  | none =>
    have other := List.find?_eq_none.1 found operator member
    simp at other
  | some o =>
    -- Both have the identifier, and no two operators of a table share one.
    have same : o.id = operator.id := by simpa using List.find?_some found
    have equal : o = operator := List.inj_on_of_nodup_map table.distinct
      (List.mem_of_find?_eq_some found) member same
    rw [equal]

/-- **It finds none** exactly where it is not there. -/
theorem find_eq_noOperator_iff {table : OperatorTable} {id : String} :
    table.find id = .error (.noOperator id) ↔ id ∉ table.ids := by
  unfold find ids
  cases found : table.operators.find? (·.id == id) with
  | none =>
    have absent := List.find?_eq_none.1 found
    simpa using absent
  | some o =>
    have member := List.mem_of_find?_eq_some found
    -- An operator that is found bears the identifier asked for.
    have same : o.id = id := by simpa using List.find?_some found
    refine iff_of_false (fun h => by cases h) (not_not_intro ?_)
    exact List.mem_map.2 ⟨o, member, same⟩

/-! ## §5. The invariant -/

section
variable {granted : List Operator} {table after : OperatorTable} {operator : Operator}

/-- Of granted operators the last one is the last under its identifier, and any other is so where
the last one has another identifier. -/
theorem isLast_concat_iff {id : String} {o : Operator} :
    IsLast (granted ++ [operator]) id o ↔
      (operator.id = id ∧ o = operator) ∨ (operator.id ≠ id ∧ IsLast granted id o) := by
  constructor
  · rintro ⟨earlier, later, split, same, others⟩
    -- Nothing comes later exactly where the operator is the one granted last of all.
    rcases List.eq_nil_or_concat' later with rfl | ⟨between, last, rfl⟩
    · obtain ⟨-, isLast⟩ := List.append_inj' split rfl
      rw [List.singleton_inj.1 isLast]
      exact .inl ⟨same, rfl⟩
    · rw [← List.cons_append, ← List.append_assoc] at split
      obtain ⟨front, isLast⟩ := List.append_inj' split rfl
      rw [List.singleton_inj.1 isLast]
      refine .inr ⟨others last (by simp), earlier, between, front, same, fun x hx => ?_⟩
      exact others x (List.mem_append_left _ hx)
  · rintro (⟨same, rfl⟩ | ⟨other, earlier, later, rfl, same, others⟩)
    · exact ⟨granted, [], rfl, same, by simp⟩
    · refine ⟨earlier, later ++ [operator], by simp, same, fun x hx => ?_⟩
      rcases List.mem_append.1 hx with hx | hx
      · exact others x hx
      · rw [List.mem_singleton.1 hx]
        exact other

/-- The rest follows from the places of the identifiers and the operators they find. -/
theorem Keeps.intro (mem_ids : ∀ id, id ∈ table.ids ↔ id ∈ granted.map (·.id))
    (inOrder : table.ids.Pairwise fun a b =>
      (granted.map (·.id)).idxOf a < (granted.map (·.id)).idxOf b)
    (find : ∀ id operator, table.find id = .ok operator ↔ IsLast granted id operator) :
    Keeps granted table where
  distinct := table.distinct
  mem_ids := mem_ids
  inOrder := inOrder
  find := find
  missing id := by rw [find_eq_noOperator_iff, mem_ids]
  contains id := List.contains_iff_mem
  size := by rw [ids, List.length_map, OperatorTable.size]
  isEmpty := by rw [ids, List.map_eq_nil_iff, OperatorTable.isEmpty, List.isEmpty_iff]

theorem keeps_empty : Keeps [] empty := by
  refine .intro (fun id => Iff.rfl) List.Pairwise.nil fun id operator => ?_
  constructor
  · intro found
    cases found
  · rintro ⟨earlier, later, split, -⟩
    cases earlier <;> cases split

/-- **One operator more**: it stands in the place of its identifier, or at the end under a new one,
and every other identifier finds what it found. -/
theorem Keeps.grant (h : Keeps granted table)
    (places : after.ids = if operator.id ∈ table.ids then table.ids else table.ids ++ [operator.id])
    (finds : ∀ o : Operator, o ∈ after.operators ↔
      o = operator ∨ (o.id ≠ operator.id ∧ o ∈ table.operators)) :
    Keeps (granted ++ [operator]) after := by
  -- An identifier that was granted before keeps its first place among those that were.
  have kept {id : String} (member : id ∈ table.ids) :
      ((granted ++ [operator]).map (·.id)).idxOf id = (granted.map (·.id)).idxOf id := by
    rw [List.map_append, List.idxOf_append_of_mem ((h.mem_ids id).1 member)]
  have order : table.ids.Pairwise fun a b => ((granted ++ [operator]).map (·.id)).idxOf a <
      ((granted ++ [operator]).map (·.id)).idxOf b := by
    refine h.inOrder.imp_of_mem fun ha hb before => ?_
    rw [kept ha, kept hb]
    exact before
  refine .intro ?_ ?_ fun id o => ?_
  · intro id
    rw [places, List.map_append, List.mem_append, ← h.mem_ids]
    split
    · rename_i known
      simp only [List.map_cons, List.map_nil, List.mem_singleton]
      refine ⟨Or.inl, ?_⟩
      rintro (there | rfl)
      · exact there
      · exact known
    · exact List.mem_append
  · rw [places]
    split
    · exact order
    · rename_i fresh
      refine List.pairwise_append.2 ⟨order, List.pairwise_singleton _ _, ?_⟩
      intro a ha b hb
      rw [List.mem_singleton.1 hb, kept ha, List.map_append,
        List.idxOf_append_of_notMem fun granted => fresh ((h.mem_ids _).2 granted)]
      exact Nat.lt_add_right _ (List.idxOf_lt_length_iff.2 ((h.mem_ids a).1 ha))
  · rw [isLast_concat_iff, ← h.find, find_eq_ok_iff, find_eq_ok_iff, finds]
    constructor
    · rintro ⟨rfl, rfl | ⟨other, member⟩⟩
      · exact .inl ⟨rfl, rfl⟩
      · exact .inr ⟨Ne.symm other, rfl, member⟩
    · rintro (⟨rfl, rfl⟩ | ⟨other, rfl, member⟩)
      · exact ⟨rfl, .inl rfl⟩
      · exact ⟨rfl, .inr ⟨Ne.symm other, member⟩⟩

/-- Adding at the end under a new identifier. -/
theorem Keeps.append (h : Keeps granted table) (fresh : operator.id ∉ table.ids)
    (added : after.operators = table.operators ++ [operator]) :
    Keeps (granted ++ [operator]) after := by
  refine h.grant ?_ fun o => ?_
  · rw [if_neg fresh, ids, added, List.map_append]
    rfl
  · rw [added, List.mem_append, List.mem_singleton]
    constructor
    · -- No earlier operator bears the identifier, so the new one is the last to do so.
      rintro (member | rfl)
      · refine .inr ⟨fun same => fresh ?_, member⟩
        exact List.mem_map.2 ⟨o, member, same⟩
      · exact .inl rfl
    · rintro (rfl | ⟨-, member⟩)
      · exact .inr rfl
      · exact .inl member

/-- **Putting an operator** keeps the invariant. -/
theorem Keeps.put (h : Keeps granted table) (operator : Operator) :
    Keeps (granted ++ [operator]) (table.put operator) := by
  -- A known operator is replaced where it stands, so only what its identifier finds changes.
  by_cases known : operator.id ∈ table.ids
  · refine h.grant ?_ fun o => ?_
    · rw [if_pos known, ids, operators_put_of_known known, map_id_replaceIn]
      rfl
    · rw [operators_put_of_known known, replaceIn, List.mem_map]
      constructor
      · rintro ⟨old, member, rfl⟩
        by_cases same : old.id = operator.id
        · exact .inl (if_pos same)
        · rw [if_neg same]
          exact .inr ⟨same, member⟩
      · rintro (rfl | ⟨other, member⟩)
        · obtain ⟨old, member, same⟩ := List.mem_map.1 known
          exact ⟨old, member, if_pos same⟩
        · exact ⟨o, member, if_neg other⟩
  · exact h.append known (operators_put_of_fresh known)

/-- **Every call** keeps the invariant, granted or not. -/
theorem Keeps.perform (h : Keeps granted table) (call : Call) :
    Keeps (granted ++ (granted? (call, (table.perform call).2)).toList) (table.perform call).1 := by
  cases call with
  | add operator =>
    by_cases known : operator.id ∈ table.ids
    · rw [perform_add_of_known known]
      simpa [granted?] using h
    · obtain ⟨changed, performed, added⟩ := perform_add_of_fresh known
      rw [performed]
      exact h.append known added
  | put operator => exact h.put operator

end

/-- **Every history** keeps the invariant. -/
theorem keeps_history (calls : List Call) :
    (history calls).transcript.map (·.1) = calls
    ∧ Keeps (granted (history calls).transcript) (history calls).table := by
  -- From the end, since a call acts on the table that all calls before it have left.
  induction calls using List.reverseRecOn with
  | nil => exact ⟨rfl, keeps_empty⟩
  | append_singleton calls call ih =>
    rw [history_concat]
    refine ⟨?_, ?_⟩
    · show List.map Prod.fst ((history calls).transcript ++ [(call, _)]) = calls ++ [call]
      rw [List.map_append, ih.1]
      rfl
    · show Keeps (granted ((history calls).transcript ++ [_]))
        ((history calls).table.perform call).1
      rw [granted_concat]
      exact ih.2.perform call

/-! ## §6. Field subjects -/

/-- A field subject with the given operators, one after the other. -/
def subjectOf (id : String) (operators : List Operator) : FieldSubject :=
  operators.foldl FieldSubject.withOperator (.of id)

/-- **A field subject** has what its operators leave. -/
theorem keeps_subjectOf (id : String) (operators : List Operator) :
    (subjectOf id operators).id = id ∧ Keeps operators (subjectOf id operators).table := by
  induction operators using List.reverseRecOn with
  | nil => exact ⟨rfl, keeps_empty⟩
  | append_singleton operators operator ih =>
    have next : subjectOf id (operators ++ [operator]) =
        (subjectOf id operators).withOperator operator := by
      unfold subjectOf
      rw [List.foldl_append, List.foldl_cons, List.foldl_nil]
    rw [next]
    exact ⟨ih.1, ih.2.put operator⟩

/-- **A TABLE KEEPS THE FIRST PLACES AND THE LAST OPERATORS.**  After any calls on a table that
starts empty:

* it holds what the granted calls leave: distinct identifiers in the order in which they were first
  granted, each with the operator that was granted last under it;
* any further call has its effect: adding under a known identifier is refused and changes nothing,
  putting under one replaces its operator and neither moves it nor touches another, and both add at
  the end under a new one.

A field subject holds what the operators that it was given leave. -/
theorem keeps_first_places_and_last_operators :
    (∀ calls : List Call,
      (history calls).transcript.map (·.1) = calls
      ∧ Keeps (granted (history calls).transcript) (history calls).table
      ∧ ∀ call, ∃ outcome,
          (history (calls ++ [call])).transcript = (history calls).transcript ++ [(call, outcome)]
          ∧ Effect (history calls).table call (history (calls ++ [call])).table outcome)
    ∧ ∀ (id : String) (operators : List Operator),
        (subjectOf id operators).id = id
        ∧ Keeps operators (subjectOf id operators).table
        ∧ (subjectOf id operators).toSubject.operator = (subjectOf id operators).table.find
        ∧ ∀ operator, Effect (subjectOf id operators).table (.put operator)
            (subjectOf id (operators ++ [operator])).table (.ok ()) := by
  refine ⟨fun calls => ?_, fun id operators => ?_⟩
  · obtain ⟨asked, keeps⟩ := keeps_history calls
    refine ⟨asked, keeps, fun call => ⟨((history calls).table.perform call).2, ?_⟩⟩
    rw [history_concat]
    exact ⟨rfl, effect_perform (history calls).table call⟩
  · obtain ⟨named, keeps⟩ := keeps_subjectOf id operators
    refine ⟨named, keeps, rfl, fun operator => ?_⟩
    -- Building a subject with one more operator is one more call of `put`.
    have next : (subjectOf id (operators ++ [operator])).table =
        (subjectOf id operators).table.put operator := by
      unfold subjectOf
      rw [List.foldl_append, List.foldl_cons, List.foldl_nil]
      rfl
    rw [next]
    exact effect_perform (subjectOf id operators).table (.put operator)

end Sift.OperatorTable
