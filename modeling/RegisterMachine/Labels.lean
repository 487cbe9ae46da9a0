import RegisterMachine.Fault

/-!
# Label tables

A table binds names to addresses.  A name is not empty and is bound once; the table keeps no
order of its own, so two tables are the same when they hold the same bindings.  A table is
shown by address, and by name where addresses agree.
-/

set_option autoImplicit false

namespace RegisterMachine

structure Labels where
  bindings : List (String × Nat)
  nonempty_names : ∀ binding ∈ bindings, binding.1 ≠ ""
  distinct_names : (bindings.map Prod.fst).Nodup
  deriving DecidableEq

namespace Labels

def empty : Labels := ⟨[], by simp, by simp⟩

def names (labels : Labels) : List String := labels.bindings.map Prod.fst

def size (labels : Labels) : Nat := labels.bindings.length

def isEmpty (labels : Labels) : Bool := labels.size == 0

def clear (_ : Labels) : Labels := empty

/-- Binds a name that was free.  The first binding of a name stays. -/
def insert (labels : Labels) (name : String) (address : Nat) : Except Fault Labels :=
  if nonempty : name = "" then .error (.malformed .emptyLabel)
  else if free : name ∈ labels.names then .error (.duplicateLabel name)
  else .ok
    { bindings := (name, address) :: labels.bindings
      nonempty_names := List.forall_mem_cons.mpr ⟨nonempty, labels.nonempty_names⟩
      distinct_names := List.nodup_cons.mpr ⟨free, labels.distinct_names⟩ }

/-- Binds a name in place.  A name that cannot be bound leaves the table as it was. -/
def add (labels : Labels) (name : String) (address : Nat) : Except Fault Unit × Labels :=
  match labels.insert name address with
  | .ok extended => (.ok (), extended)
  | .error fault => (.error fault, labels)

def insertAll (labels : Labels) : List (String × Nat) → Except Fault Labels
  | [] => .ok labels
  | (name, address) :: rest =>
      match labels.insert name address with
      | .ok labels => labels.insertAll rest
      | .error fault => .error fault

def address? (labels : Labels) (name : String) : Option Nat :=
  labels.bindings.lookup name

def address (labels : Labels) (name : String) : Except Fault Nat :=
  match labels.address? name with
  | some address => .ok address
  | none => .error (.undefinedLabel name)

def includedIn (left right : Labels) : Bool :=
  left.bindings.all fun binding => right.address? binding.1 == some binding.2

def same (left right : Labels) : Bool :=
  left.includedIn right && right.includedIn left

/-! ## Orders -/

def notAfter (left right : String × Nat) : Bool :=
  left.2 < right.2 || (left.2 == right.2 && left.1 ≤ right.1)

def byAddress (labels : Labels) : List (String × Nat) :=
  labels.bindings.mergeSort notAfter

def byName (labels : Labels) : List (String × Nat) :=
  labels.bindings.mergeSort fun left right => left.1 ≤ right.1

def text (labels : Labels) : String :=
  "[" ++ ", ".intercalate
    (labels.byAddress.map fun binding => binding.1 ++ " -> " ++ Text.decimal binding.2)
    ++ "]"

/-! ## Hashing -/

inductive Datum
  | number (value : Nat)
  | text (content : String)
  deriving DecidableEq, Repr

/-- A table is hashed as the list of its bindings by address, with the length of the list before
them. -/
def hashed (labels : Labels) : List Datum :=
  .number labels.byAddress.length ::
    labels.byAddress.flatMap fun binding => [.text binding.1, .number binding.2]

def hash {η : Type} (labels : Labels) (feed : η → Datum → η) (start : η) : η :=
  labels.hashed.foldl feed start

/-! ## Reading after binding -/

@[simp] theorem address?_empty (name : String) : empty.address? name = none := rfl

theorem insert_ok (labels extended : Labels) (name : String) (address : Nat)
    (success : labels.insert name address = .ok extended) :
    name ≠ "" ∧ name ∉ labels.names ∧ extended.bindings = (name, address) :: labels.bindings := by
  unfold insert at success
  split at success
  · contradiction
  · split at success
    · contradiction
    · next nonempty free =>
        cases success
        exact ⟨nonempty, free, rfl⟩

theorem address?_insert (labels extended : Labels) (name : String) (address : Nat)
    (success : labels.insert name address = .ok extended) (asked : String) :
    extended.address? asked = if asked = name then some address else labels.address? asked := by
  obtain ⟨-, -, bindings⟩ := insert_ok labels extended name address success
  by_cases same : asked = name
  · simp [address?, bindings, same]
  · simp [address?, bindings, same, List.lookup_cons, beq_false_of_ne same]

theorem lookup_eq_some_iff_mem (bindings : List (String × Nat)) (name : String) (address : Nat)
    (distinct : (bindings.map Prod.fst).Nodup) :
    bindings.lookup name = some address ↔ (name, address) ∈ bindings := by
  induction bindings with
  | nil => simp
  | cons first rest ih =>
      obtain ⟨firstName, firstAddress⟩ := first
      rw [List.map_cons, List.nodup_cons] at distinct
      by_cases same : name = firstName
      · subst same
        have absent : (name, address) ∉ rest := fun found =>
          distinct.1 (List.mem_map.mpr ⟨(name, address), found, rfl⟩)
        simp [absent, eq_comm]
      · simp [List.lookup_cons, same, beq_false_of_ne same, ih distinct.2]

theorem address?_eq_some_iff (labels : Labels) (name : String) (address : Nat) :
    labels.address? name = some address ↔ (name, address) ∈ labels.bindings :=
  lookup_eq_some_iff_mem labels.bindings name address labels.distinct_names

theorem includedIn_iff (left right : Labels) :
    left.includedIn right = true ↔ ∀ binding ∈ left.bindings, binding ∈ right.bindings := by
  simp only [includedIn, List.all_eq_true, beq_iff_eq, address?_eq_some_iff]

theorem same_iff (left right : Labels) :
    left.same right = true ↔ ∀ binding, binding ∈ left.bindings ↔ binding ∈ right.bindings := by
  simp only [same, Bool.and_eq_true, includedIn_iff]
  exact ⟨fun both binding => ⟨both.1 binding, both.2 binding⟩,
    fun agree => ⟨fun binding => (agree binding).mp, fun binding => (agree binding).mpr⟩⟩

end Labels

end RegisterMachine
