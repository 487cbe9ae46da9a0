import Mathlib.Data.Finset.Card
import Mathlib.Data.List.Induction
import RegisterMachine.Proofs.Delimited
import RegisterMachine.Labels
import RegisterMachine.Text.Blank

/-!
# Label tables as maps with a canonical form

A table that is filled and cleared again and again knows the bindings that were asked for since it
was last cleared, and of each name the first one.  The order in which a table keeps its bindings
cannot be seen from outside: the list by address is the same for equal tables, and so are the hash
and the text that are made from it.  The text tells tables apart as long as no name has a blank.
-/

set_option autoImplicit false

namespace RegisterMachine

/-- What can be done to a table. -/
inductive TableAct
  | add (name : String) (address : Nat)
  | clear
  deriving DecidableEq

namespace TableAct

/-- The binding that is asked for.  No table binds the empty name. -/
def binding? : TableAct → Option (String × Nat)
  | .add name address => if name = "" then none else some (name, address)
  | .clear => none

def sinceClear (acts : List TableAct) : List TableAct :=
  (acts.reverse.takeWhile (· ≠ .clear)).reverse

/-- The bindings of non-empty names that were asked for after the last clearing, in order. -/
def asked (acts : List TableAct) : List (String × Nat) :=
  (sinceClear acts).filterMap binding?

@[simp] theorem asked_nil : asked [] = [] := rfl

@[simp] theorem asked_concat_clear (acts : List TableAct) : asked (acts ++ [.clear]) = [] := by
  simp [asked, sinceClear]

theorem asked_concat_add (acts : List TableAct) (name : String) (address : Nat) :
    asked (acts ++ [.add name address]) =
      asked acts ++ if name = "" then [] else [(name, address)] := by
  have since : sinceClear (acts ++ [.add name address]) =
      sinceClear acts ++ [.add name address] := by
    simp [sinceClear]
  rw [asked, asked, since, List.filterMap_append]
  by_cases empty : name = "" <;> simp [binding?, empty]

end TableAct

namespace Labels

open TableAct

def perform (labels : Labels) : TableAct → Labels
  | .add name address => (labels.add name address).2
  | .clear => labels.clear

def ofActs (acts : List TableAct) : Labels :=
  acts.foldl perform empty

theorem ofActs_concat (acts : List TableAct) (act : TableAct) :
    ofActs (acts ++ [act]) = (ofActs acts).perform act := by
  rw [ofActs, List.foldl_append]
  rfl

/-! ## The first binding stays -/

theorem mem_names_iff (labels : Labels) (name : String) :
    name ∈ labels.names ↔ ∃ address, labels.address? name = some address := by
  simp only [names, List.mem_map, address?_eq_some_iff]
  exact ⟨fun ⟨binding, member, same⟩ => ⟨binding.2, same ▸ member⟩,
    fun ⟨address, member⟩ => ⟨(name, address), member, rfl⟩⟩

theorem address_eq_ok_iff (labels : Labels) (name : String) (address : Nat) :
    labels.address name = .ok address ↔ labels.address? name = some address := by
  unfold Labels.address
  cases labels.address? name <;> simp

theorem address_eq_error_iff (labels : Labels) (name : String) (fault : Fault) :
    labels.address name = .error fault ↔
      fault = .undefinedLabel name ∧ labels.address? name = none := by
  unfold Labels.address
  cases labels.address? name <;> simp [eq_comm]

theorem add_result (labels : Labels) (name : String) (address : Nat) :
    (labels.add name address).1 =
      if name = "" then .error (.malformed .emptyLabel)
      else if name ∈ labels.names then .error (.duplicateLabel name)
      else .ok () := by
  unfold Labels.add insert
  split_ifs <;> rfl

theorem add_of_failed (labels : Labels) (name : String) (address : Nat) (fault : Fault)
    (failed : (labels.add name address).1 = .error fault) :
    (labels.add name address).2 = labels := by
  unfold Labels.add at failed ⊢
  cases inserted : labels.insert name address with
  | ok extended => rw [inserted] at failed; contradiction
  | error found => rfl

theorem address?_add (labels : Labels) (name : String) (address : Nat) (sought : String) :
    (labels.add name address).2.address? sought =
      (labels.address? sought).or
        ((if name = "" then [] else [(name, address)]).lookup sought) := by
  cases inserted : labels.insert name address with
  | ok extended =>
      obtain ⟨nonempty, free, -⟩ := insert_ok labels extended name address inserted
      have added : (labels.add name address).2 = extended := by rw [Labels.add, inserted]
      rw [added, address?_insert labels extended name address inserted, if_neg nonempty]
      by_cases same : sought = name
      · have unknown : labels.address? name = none :=
          Option.eq_none_iff_forall_ne_some.mpr fun found known =>
            free ((labels.mem_names_iff name).mpr ⟨found, known⟩)
        simp [same, unknown]
      · simp [same, List.lookup_cons, beq_false_of_ne same]
  | error fault =>
      have refused : (labels.add name address).1 = .error fault := by rw [Labels.add, inserted]
      rw [labels.add_of_failed name address fault refused]
      rw [add_result] at refused
      by_cases empty : name = ""
      · simp [empty]
      · rw [if_neg empty] at refused
        have bound : name ∈ labels.names := by
          by_contra free
          rw [if_neg free] at refused
          contradiction
        obtain ⟨old, known⟩ := (labels.mem_names_iff name).mp bound
        by_cases same : sought = name
        · simp [same, known]
        · simp [empty, List.lookup_cons, beq_false_of_ne same]

/-- A table tells of a name the first binding that was asked for. -/
theorem address?_ofActs (acts : List TableAct) (name : String) :
    (ofActs acts).address? name = (asked acts).lookup name := by
  induction acts using List.reverseRecOn with
  | nil => rfl
  | append_singleton acts act ih =>
      rw [ofActs_concat]
      cases act with
      | add bound address =>
          rw [asked_concat_add, List.lookup_append, ← ih]
          exact address?_add (ofActs acts) bound address name
      | clear => rw [asked_concat_clear]; rfl

theorem mem_names_ofActs (acts : List TableAct) (name : String) :
    name ∈ (ofActs acts).names ↔ ∃ binding ∈ asked acts, binding.1 = name := by
  have unknown : (asked acts).lookup name = none ↔ ∀ binding ∈ asked acts, binding.1 ≠ name := by
    simp only [List.lookup_eq_none_iff, bne_iff_ne, ne_comm]
  rw [mem_names_iff, ← not_iff_not, not_exists, ← Option.eq_none_iff_forall_ne_some,
    address?_ofActs, unknown]
  simp only [not_exists, not_and, ne_eq]

theorem size_ofActs (acts : List TableAct) :
    (ofActs acts).size = ((asked acts).map Prod.fst).toFinset.card := by
  have same : (ofActs acts).names.toFinset = ((asked acts).map Prod.fst).toFinset :=
    Finset.ext fun name => by
      rw [List.mem_toFinset, List.mem_toFinset, mem_names_ofActs, List.mem_map]
  have counted : (ofActs acts).names.toFinset.card = (ofActs acts).names.length :=
    List.toFinset_card_of_nodup (ofActs acts).distinct_names
  rw [← same, counted, names, List.length_map, size]

/-! ## One list by address -/

/-- The order by address, and by name where addresses agree. -/
def Precedes (left right : String × Nat) : Prop :=
  left.2 < right.2 ∨ left.2 = right.2 ∧ left.1 < right.1

theorem precedes_trans (first second third : String × Nat) (before : Precedes first second)
    (after : Precedes second third) : Precedes first third := by
  rcases before with nearer | ⟨sameNear, nearer⟩ <;> rcases after with further | ⟨sameFar, further⟩
  · exact Or.inl (nearer.trans further)
  · exact Or.inl (sameFar ▸ nearer)
  · exact Or.inl (sameNear ▸ further)
  · exact Or.inr ⟨sameNear.trans sameFar, String.lt_trans nearer further⟩

theorem precedes_asymm (left right : String × Nat) (before : Precedes left right) :
    ¬ Precedes right left := by
  intro after
  rcases precedes_trans left right left before after with less | ⟨-, less⟩
  · exact Nat.lt_irrefl _ less
  · exact String.lt_irrefl _ less

theorem precedes_total (left right : String × Nat) :
    left = right ∨ Precedes left right ∨ Precedes right left := by
  rcases Nat.lt_trichotomy left.2 right.2 with less | same | more
  · exact Or.inr (Or.inl (Or.inl less))
  · by_cases names : left.1 = right.1
    · exact Or.inl (Prod.ext names same)
    · rcases String.le_total left.1 right.1 with before | after
      · exact Or.inr (Or.inl (Or.inr ⟨same, Std.lt_of_le_of_ne before names⟩))
      · exact Or.inr (Or.inr (Or.inr ⟨same.symm, Std.lt_of_le_of_ne after (Ne.symm names)⟩))
  · exact Or.inr (Or.inr (Or.inl more))

theorem notAfter_iff (left right : String × Nat) :
    notAfter left right = true ↔ left = right ∨ Precedes left right := by
  simp only [notAfter, Bool.or_eq_true, Bool.and_eq_true, decide_eq_true_eq, beq_iff_eq, Precedes,
    Prod.ext_iff, Std.le_iff_lt_or_eq]
  tauto

theorem mem_byAddress (labels : Labels) (binding : String × Nat) :
    binding ∈ labels.byAddress ↔ binding ∈ labels.bindings :=
  List.mem_mergeSort

theorem nodup_byAddress (labels : Labels) : labels.byAddress.Nodup :=
  (List.mergeSort_perm labels.bindings notAfter).nodup_iff.mpr labels.distinct_names.of_map

theorem pairwise_byAddress (labels : Labels) : labels.byAddress.Pairwise Precedes := by
  have transitive : ∀ first second third, notAfter first second = true →
      notAfter second third = true → notAfter first third = true := by
    simp only [notAfter_iff]
    rintro first second third (rfl | before) (rfl | after)
    · exact Or.inl rfl
    · exact Or.inr after
    · exact Or.inr before
    · exact Or.inr (precedes_trans first second third before after)
  have total : ∀ left right, (notAfter left right || notAfter right left) = true := by
    intro left right
    simp only [Bool.or_eq_true, notAfter_iff]
    rcases precedes_total left right with same | before | after
    · exact Or.inl (Or.inl same)
    · exact Or.inl (Or.inr before)
    · exact Or.inr (Or.inr after)
  have sorted := List.pairwise_mergeSort transitive total labels.bindings
  exact (sorted.and labels.nodup_byAddress).imp fun both =>
    ((notAfter_iff _ _).mp both.1).resolve_left both.2

theorem byAddress_eq_iff (left right : Labels) :
    left.byAddress = right.byAddress ↔
      ∀ binding, binding ∈ left.bindings ↔ binding ∈ right.bindings := by
  constructor
  · intro same binding
    rw [← mem_byAddress, same, mem_byAddress]
  · intro same
    have permuted : left.byAddress.Perm right.byAddress :=
      (List.perm_ext_iff_of_nodup left.nodup_byAddress right.nodup_byAddress).mpr
        fun binding => by rw [mem_byAddress, mem_byAddress, same]
    exact permuted.eq_of_pairwise
      (fun first second _ _ before after => absurd after (precedes_asymm first second before))
      left.pairwise_byAddress right.pairwise_byAddress

theorem same_iff_byAddress (left right : Labels) :
    left.same right = true ↔ left.byAddress = right.byAddress := by
  rw [same_iff, byAddress_eq_iff]

/-! ## What is hashed -/

theorem flatMap_data_injective (first second : List (String × Nat))
    (same : (first.flatMap fun binding => [Datum.text binding.1, Datum.number binding.2]) =
      second.flatMap fun binding => [Datum.text binding.1, Datum.number binding.2]) :
    first = second := by
  induction first generalizing second with
  | nil =>
      cases second with
      | nil => rfl
      | cons binding rest => simp at same
  | cons binding rest ih =>
      cases second with
      | nil => simp at same
      | cons binding' rest' =>
          simp only [List.flatMap_cons, List.cons_append, List.nil_append, List.cons.injEq,
            Datum.text.injEq, Datum.number.injEq] at same
          rw [ih rest' same.2.2, Prod.ext same.1 same.2.1]

theorem hashed_eq_iff (left right : Labels) :
    left.hashed = right.hashed ↔ left.byAddress = right.byAddress :=
  ⟨fun same => flatMap_data_injective _ _ (List.cons.inj same).2,
    fun same => by rw [hashed, hashed, same]⟩

/-! ## Texts -/

def entry (binding : String × Nat) : List Char :=
  binding.1.toList ++ ' ' :: '-' :: '>' :: ' ' :: (Text.decimal binding.2).toList

def behind : List (String × Nat) → List Char
  | [] => [']']
  | binding :: rest => ',' :: ' ' :: (entry binding ++ behind rest)

def opened : List (String × Nat) → List Char
  | [] => [']']
  | binding :: rest => entry binding ++ behind rest

theorem intercalate_entries (bindings : List (String × Nat)) :
    [',', ' '].intercalate (bindings.map entry) ++ [']'] = opened bindings := by
  cases bindings with
  | nil => rfl
  | cons first rest =>
      induction rest generalizing first with
      | nil => simp [opened, behind]
      | cons second rest ih =>
          rw [List.map_cons, List.map_cons, List.intercalate_cons_cons, List.append_assoc,
            ← List.map_cons, ih]
          simp [opened, behind]

theorem toList_text (labels : Labels) : labels.text.toList = '[' :: opened labels.byAddress := by
  have entries : (labels.byAddress.map fun binding =>
      (binding.1 ++ " -> " ++ Text.decimal binding.2).toList) = labels.byAddress.map entry :=
    List.map_congr_left fun binding _ => by simp [entry]
  have brackets : labels.text.toList =
      ['['] ++ [',', ' '].intercalate (labels.byAddress.map entry) ++ [']'] := by
    rw [text, String.toList_append, String.toList_append, String.toList_intercalate, List.map_map,
      ← entries]
    rfl
  rw [brackets, List.append_assoc, intercalate_entries]
  rfl

/-- Names that stand in a text as one word. -/
def BlankFree (bindings : List (String × Nat)) : Prop :=
  ∀ binding ∈ bindings, ∀ c ∈ binding.1.toList, Text.isBlank c = false

instance (bindings : List (String × Nat)) : Decidable (BlankFree bindings) :=
  decidable_of_iff
    ((bindings.all fun binding => binding.1.toList.all fun c => !Text.isBlank c) = true)
    (by simp [BlankFree])

theorem behind_eq_cons (bindings : List (String × Nat)) :
    ∃ stop rest, behind bindings = stop :: rest ∧ stop.isDigit = false := by
  cases bindings with
  | nil => exact ⟨']', [], rfl, rfl⟩
  | cons binding rest => exact ⟨',', _, rfl, rfl⟩

/-- The blank behind a name ends it whatever else it has in it, and the character behind an address
is no digit. -/
theorem entry_unique (first second : String × Nat) (rest rest' : List (String × Nat))
    (visible : ∀ c ∈ first.1.toList, Text.isBlank c = false)
    (visible' : ∀ c ∈ second.1.toList, Text.isBlank c = false)
    (same : entry first ++ behind rest = entry second ++ behind rest') :
    first = second ∧ behind rest = behind rest' := by
  have inside : ∀ name : List Char, (∀ c ∈ name, Text.isBlank c = false) →
      ∀ c ∈ name, (!Text.isBlank c) = true := fun name visible c member => by
    rw [visible c member]
    rfl
  simp only [entry, List.append_assoc, List.cons_append] at same
  obtain ⟨names, -, addresses⟩ := Text.delimited_unique (fun c => !Text.isBlank c) _ _ _ _ ' ' ' '
    (inside _ visible) (inside _ visible') rfl rfl same
  obtain ⟨stop, text, shown, noDigit⟩ := behind_eq_cons rest
  obtain ⟨stop', text', shown', noDigit'⟩ := behind_eq_cons rest'
  simp only [List.cons.injEq, true_and] at addresses
  rw [shown, shown'] at addresses ⊢
  obtain ⟨numbers, stops, texts⟩ :=
    Text.decimal_delimited_unique _ _ _ _ stop stop' noDigit noDigit' addresses
  exact ⟨Prod.ext (String.toList_injective names) numbers, by rw [stops, texts]⟩

theorem behind_injective (first second : List (String × Nat)) (visible : BlankFree first)
    (visible' : BlankFree second) (same : behind first = behind second) : first = second := by
  induction first generalizing second with
  | nil =>
      cases second with
      | nil => rfl
      | cons binding rest => simp [behind] at same
  | cons binding rest ih =>
      cases second with
      | nil => simp [behind] at same
      | cons binding' rest' =>
          rw [BlankFree, List.forall_mem_cons] at visible visible'
          simp only [behind, List.cons.injEq, true_and] at same
          obtain ⟨bindings, rests⟩ := entry_unique _ _ rest rest' visible.1 visible'.1 same
          rw [bindings, ih rest' visible.2 visible'.2 rests]

theorem opened_injective (first second : List (String × Nat)) (visible : BlankFree first)
    (visible' : BlankFree second) (same : opened first = opened second) : first = second := by
  have blank : ∀ binding rest, ' ' ∈ opened (binding :: rest) := fun binding rest => by
    simp [opened, entry]
  have noBlank : ' ' ∉ opened [] := by decide
  refine behind_injective first second visible visible' ?_
  cases first with
  | nil =>
      cases second with
      | nil => rfl
      | cons binding rest => exact absurd (same ▸ blank binding rest) noBlank
  | cons binding rest =>
      cases second with
      | nil => exact absurd (same ▸ blank binding rest) noBlank
      | cons binding' rest' => rw [behind, behind]; exact congrArg (',' :: ' ' :: ·) same

theorem text_eq_iff (left right : Labels) (visible : BlankFree left.bindings)
    (visible' : BlankFree right.bindings) :
    left.text = right.text ↔ left.byAddress = right.byAddress := by
  refine ⟨fun same => ?_, fun same => by rw [text, text, same]⟩
  have texts := congrArg String.toList same
  rw [toList_text, toList_text] at texts
  exact opened_injective _ _
    (fun binding member => visible binding ((left.mem_byAddress binding).mp member))
    (fun binding member => visible' binding ((right.mem_byAddress binding).mp member))
    (List.cons.inj texts).2

/-! ## Maps and their canonical form -/

theorem same_iff_address (left right : Labels) :
    left.same right = true ↔
      ∀ name address, left.address name = .ok address ↔ right.address name = .ok address := by
  simp only [same_iff, address_eq_ok_iff, address?_eq_some_iff, Prod.forall]

/-- A hasher that keeps what it is fed with tells tables apart. -/
theorem same_iff_hash (left right : Labels) :
    left.same right = true ↔
      ∀ (η : Type) (feed : η → Datum → η) (start : η),
        left.hash feed start = right.hash feed start := by
  rw [same_iff_byAddress, ← hashed_eq_iff]
  refine ⟨fun same η feed start => by rw [hash, hash, same], fun agree => ?_⟩
  have kept : ∀ labels : Labels, labels.hash (fun data datum => datum :: data) [] =
      labels.hashed.reverse := fun labels => by
    rw [hash, List.foldl_flip_cons_eq_append', List.append_nil]
  exact List.reverse_injective (by rw [← kept, ← kept, agree])

/-- A table binds each name as it was first asked for since the table was last cleared, and the
list by address is one form for all tables with the same bindings. -/
theorem first_binding_stays_in_canonical_form (acts : List TableAct) (left right : Labels) :
    (∀ name address, (ofActs acts).address name = .ok address ↔
        ∃ before after, asked acts = before ++ (name, address) :: after ∧
          ∀ binding ∈ before, binding.1 ≠ name) ∧
      (∀ name fault, (ofActs acts).address name = .error fault ↔
        fault = .undefinedLabel name ∧ ∀ binding ∈ asked acts, binding.1 ≠ name) ∧
      (∀ name address, ((ofActs acts).add name address).1 =
        if name = "" then .error (.malformed .emptyLabel)
        else if ∃ binding ∈ asked acts, binding.1 = name then .error (.duplicateLabel name)
        else .ok ()) ∧
      (∀ name address fault, ((ofActs acts).add name address).1 = .error fault →
        ((ofActs acts).add name address).2 = ofActs acts) ∧
      (ofActs acts).size = ((asked acts).map Prod.fst).toFinset.card ∧
      (left.same right = true ↔
        ∀ name address, left.address name = .ok address ↔ right.address name = .ok address) ∧
      (left.same right = true ↔ left.byAddress = right.byAddress) ∧
      left.byAddress.Pairwise Precedes ∧ left.byAddress.Nodup ∧
      (∀ name address, (name, address) ∈ left.byAddress ↔ left.address name = .ok address) ∧
      (left.same right = true ↔
        ∀ (η : Type) (feed : η → Datum → η) (start : η),
          left.hash feed start = right.hash feed start) ∧
      (left.same right = true → left.text = right.text) ∧
      (BlankFree left.bindings → BlankFree right.bindings →
        left.same right = false → left.text ≠ right.text) := by
  refine ⟨fun name address => ?_, fun name fault => ?_, fun name address => ?_,
    (ofActs acts).add_of_failed, size_ofActs acts, same_iff_address left right,
    same_iff_byAddress left right, left.pairwise_byAddress, left.nodup_byAddress,
    fun name address => ?_, same_iff_hash left right, fun same => ?_,
    fun visible visible' different same => ?_⟩
  · rw [address_eq_ok_iff, address?_ofActs, List.lookup_eq_some_iff]
    simp only [bne_iff_ne, ne_comm]
  · rw [address_eq_error_iff, address?_ofActs, List.lookup_eq_none_iff]
    simp only [bne_iff_ne, ne_comm]
  · simp only [add_result, mem_names_ofActs]
  · rw [mem_byAddress, address_eq_ok_iff, address?_eq_some_iff]
  · rw [text, text, (same_iff_byAddress left right).mp same]
  · have equal := (same_iff_byAddress left right).mpr
      ((text_eq_iff left right visible visible').mp same)
    rw [equal] at different
    contradiction

theorem first_binding_stays_of_brackets_and_arrows :
    let left := ofActs [.add "a," 3, .clear, .add "" 1, .add "->" 0, .add "0]" 0, .add "->" 2]
    let right := ofActs [.add "0]" 0, .add "->" 2]
    left.address "->" = .ok 0 ∧ left.address "a," = .error (.undefinedLabel "a,") ∧
      left.text ≠ right.text := by
  have theory := first_binding_stays_in_canonical_form
    [.add "a," 3, .clear, .add "" 1, .add "->" 0, .add "0]" 0, .add "->" 2]
    (ofActs [.add "a," 3, .clear, .add "" 1, .add "->" 0, .add "0]" 0, .add "->" 2])
    (ofActs [.add "0]" 0, .add "->" 2])
  obtain ⟨found, missing, -, -, -, -, -, -, -, -, -, -, texts⟩ := theory
  exact ⟨(found _ _).mpr ⟨[], [("0]", 0), ("->", 2)], by decide, by decide⟩,
    (missing _ _).mpr ⟨rfl, by decide⟩,
    texts (by decide) (by decide) (by decide)⟩

/-- With blanks a name can look like a binding and the beginning of the next one. -/
example : (ofActs [.add "a -> 0, b" 1]).text = (ofActs [.add "a" 0, .add "b" 1]).text := by
  cbv

end Labels

end RegisterMachine
