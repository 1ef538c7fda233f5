import Mathlib.Data.Finset.Card
import Mathlib.Data.List.Basic
import Mathlib.Tactic.SplitIfs

/-!
# Tables with a fixed number of slots

A table is a list of slots that never grows. A slot holds a key and a value, and one
key, `vacant`, marks the slots that hold nothing. `put` changes the value in the slot
of its key, or takes the first vacant slot; where there is none it does nothing. A
table stands for the list of all puts, newest first, in which a key is looked up in
the same way, as long as there are no more keys than slots.
-/

namespace Foundation.SlotTable

set_option autoImplicit false

variable {Key Value : Type*} [DecidableEq Key]

def lookup (key : Key) : List (Key × Value) → Option Value
  | [] => none
  | slot :: rest => if slot.1 = key then some slot.2 else lookup key rest

/-- Writes the first slot with the key `old`. -/
def overwriteFirst (old : Key) (entry : Key × Value) : List (Key × Value) → List (Key × Value)
  | [] => []
  | slot :: rest => if slot.1 = old then entry :: rest else slot :: overwriteFirst old entry rest

def vacancies (vacant : Key) (table : List (Key × Value)) : Nat :=
  table.countP fun slot => slot.1 = vacant

def keys (table : List (Key × Value)) : Finset Key := (table.map Prod.fst).toFinset

theorem mem_keys_of_lookup {key : Key} {table : List (Key × Value)}
    (held : lookup key table ≠ none) : key ∈ keys table := by
  induction table with
  | nil => exact absurd rfl held
  | cons slot rest ih =>
      rw [keys, List.map_cons, List.toFinset_cons, Finset.mem_insert]
      rw [lookup] at held
      split_ifs at held with same
      · exact Or.inl same.symm
      · exact Or.inr (ih held)

theorem lookup_of_mem_keys {key : Key} {table : List (Key × Value)} (member : key ∈ keys table) :
    lookup key table ≠ none := by
  induction table with
  | nil => simp [keys] at member
  | cons slot rest ih =>
      rw [keys, List.map_cons, List.toFinset_cons, Finset.mem_insert] at member
      rw [lookup]
      split_ifs with same
      · simp
      · exact ih (member.resolve_left fun head => same head.symm)

theorem keys_cons (entry : Key × Value) (log : List (Key × Value)) :
    keys (entry :: log) = insert entry.1 (keys log) := by
  rw [keys, List.map_cons, List.toFinset_cons, ← keys]

theorem keys_card_le (table : List (Key × Value)) : (keys table).card ≤ table.length := by
  calc (keys table).card ≤ (table.map Prod.fst).length := List.toFinset_card_le _
    _ = table.length := List.length_map _

theorem card_le_of_held {found : Finset Key} {table : List (Key × Value)}
    (held : ∀ key ∈ found, lookup key table ≠ none) : found.card ≤ table.length := by
  have stored : found ⊆ keys table := fun key member => mem_keys_of_lookup (held key member)
  exact (Finset.card_le_card stored).trans (keys_card_le table)

theorem length_overwrite_first (old : Key) (entry : Key × Value) (table : List (Key × Value)) :
    (overwriteFirst old entry table).length = table.length := by
  induction table with
  | nil => rfl
  | cons slot rest ih =>
      rw [overwriteFirst]
      split_ifs
      · rfl
      · rw [List.length_cons, List.length_cons, ih]

theorem lookup_overwrite_first {old : Key} {entry : Key × Value} {table : List (Key × Value)}
    (held : lookup old table ≠ none) (fresh : entry.1 = old ∨ lookup entry.1 table = none)
    (other : Key) (different : other ≠ old ∨ entry.1 = old) :
    lookup other (overwriteFirst old entry table) =
      if other = entry.1 then some entry.2 else lookup other table := by
  induction table with
  | nil => exact absurd rfl held
  | cons slot rest ih =>
      rw [overwriteFirst, lookup]
      by_cases first : slot.1 = old
      · rw [if_pos first, lookup, first]
        by_cases same : other = entry.1
        · rw [if_pos same, if_pos same.symm]
        · rw [if_neg same, if_neg fun eq => same eq.symm]
          rcases different with apart | replaced
          · rw [if_neg fun eq => apart eq.symm]
          · rw [if_neg fun eq => same (eq.symm.trans replaced.symm)]
      · rw [if_neg first, lookup]
        have later : lookup old rest ≠ none := by rwa [lookup, if_neg first] at held
        have free : entry.1 = old ∨ lookup entry.1 rest = none := by
          apply fresh.imp id
          intro absent
          rw [lookup] at absent
          split_ifs at absent
          exact absent
        by_cases here : slot.1 = other
        · rw [if_pos here, if_pos here]
          have notEntry : other ≠ entry.1 := by
            rintro rfl
            rcases fresh with same | absent
            · exact first (here.trans same)
            · rw [lookup, if_pos here] at absent
              cases absent
          rw [if_neg notEntry]
        · rw [if_neg here, if_neg here]
          exact ih later free

theorem vacancies_overwrite_first {vacant : Key} {entry : Key × Value}
    {table : List (Key × Value)} (proper : entry.1 ≠ vacant) :
    vacancies vacant (overwriteFirst vacant entry table) = vacancies vacant table - 1 := by
  induction table with
  | nil => rfl
  | cons slot rest ih =>
      rw [overwriteFirst]
      simp only [vacancies] at ih ⊢
      split_ifs with free
      · rw [List.countP_cons_of_neg (by simpa using proper),
          List.countP_cons_of_pos (by simpa using free), Nat.add_sub_cancel]
      · rw [List.countP_cons_of_neg (by simpa using free), ih,
          List.countP_cons_of_neg (by simpa using free)]

theorem vacancies_overwrite_same {vacant key : Key} {value : Value}
    {table : List (Key × Value)} (proper : key ≠ vacant) :
    vacancies vacant (overwriteFirst key (key, value) table) = vacancies vacant table := by
  induction table with
  | nil => rfl
  | cons slot rest ih =>
      rw [overwriteFirst]
      simp only [vacancies] at ih ⊢
      split_ifs with here
      · rw [List.countP_cons_of_neg (by simpa using proper),
          List.countP_cons_of_neg (by simpa [here] using proper)]
      · rw [List.countP_cons, List.countP_cons, ih]

theorem lookup_vacant_of_vacancies {vacant : Key} {table : List (Key × Value)}
    (room : 0 < vacancies vacant table) : lookup vacant table ≠ none := by
  obtain ⟨slot, member, free⟩ := List.countP_pos_iff.mp room
  apply lookup_of_mem_keys
  rw [keys, List.mem_toFinset]
  exact List.mem_map.mpr ⟨slot, member, of_decide_eq_true free⟩

/-- The table stands for the puts in `log`, newest first. -/
structure Represents (vacant : Key) (table log : List (Key × Value)) : Prop where
  agrees : ∀ key, key ≠ vacant → lookup key table = lookup key log
  room : vacancies vacant table + (keys log).card = table.length

theorem represents_empty (vacant : Key) (value : Value) (size : Nat) :
    Represents vacant (List.replicate size (vacant, value)) [] where
  agrees key proper := by
    by_contra held
    have member := mem_keys_of_lookup held
    rw [keys, List.map_replicate, List.mem_toFinset] at member
    exact proper (List.eq_of_mem_replicate member)
  room := by
    have all : vacancies vacant (List.replicate size (vacant, value)) = size := by
      rw [vacancies, List.countP_replicate, if_pos (decide_eq_true rfl)]
    rw [all, List.length_replicate]
    rfl

variable [DecidableEq Value]

/-- The answer tells whether the value is new. -/
def put (vacant key : Key) (value : Value) (table : List (Key × Value)) :
    List (Key × Value) × Bool :=
  match lookup key table with
  | some held =>
      if held = value then (table, false) else (overwriteFirst key (key, value) table, true)
  | none => (overwriteFirst vacant (key, value) table, true)

def putAll (vacant : Key) (table : List (Key × Value)) (entries : List (Key × Value)) :
    List (Key × Value) :=
  entries.foldl (fun table entry => (put vacant entry.1 entry.2 table).1) table

theorem length_put (vacant key : Key) (value : Value) (table : List (Key × Value)) :
    (put vacant key value table).1.length = table.length := by
  unfold put
  split
  · split_ifs
    · rfl
    · exact length_overwrite_first _ _ table
  · exact length_overwrite_first _ _ table

/-- What `put` does to every key, in a table that holds the key or has room for it. -/
theorem lookup_put {vacant key other : Key} {value : Value} {table : List (Key × Value)}
    (room : lookup key table ≠ none ∨ 0 < vacancies vacant table) (proper : other ≠ vacant) :
    lookup other (put vacant key value table).1 =
      if other = key then some value else lookup other table := by
  unfold put
  cases held : lookup key table with
  | some old =>
      have present : lookup key table ≠ none := by simp [held]
      simp only
      split_ifs with unchanged same same
      · rw [same, held, unchanged]
      · rfl
      · rw [lookup_overwrite_first present (Or.inl rfl) other (Or.inr rfl), if_pos same]
      · rw [lookup_overwrite_first present (Or.inl rfl) other (Or.inr rfl), if_neg same]
  | none =>
      have free := room.resolve_left fun present => present held
      exact lookup_overwrite_first (lookup_vacant_of_vacancies free) (Or.inr held) other
        (Or.inl proper)

theorem vacancies_put {vacant key : Key} {value : Value} {table : List (Key × Value)}
    (proper : key ≠ vacant) :
    vacancies vacant (put vacant key value table).1 =
      if lookup key table = none then vacancies vacant table - 1 else vacancies vacant table := by
  unfold put
  cases held : lookup key table with
  | some old =>
      simp only [reduceCtorEq, if_false]
      split_ifs
      · rfl
      · exact vacancies_overwrite_same proper
  | none => simpa using vacancies_overwrite_first proper

/-- The answer is `false` for a key that holds the value already. -/
theorem put_unchanged (vacant key : Key) (value : Value) (table : List (Key × Value)) :
    (put vacant key value table).2 = false ↔ lookup key table = some value := by
  unfold put
  cases lookup key table with
  | some old => simp only [Option.some.injEq]; split_ifs with same <;> simp [same]
  | none => simp

theorem represents_put {vacant : Key} {table log : List (Key × Value)} {entry : Key × Value}
    (represents : Represents vacant table log) (proper : entry.1 ≠ vacant)
    (fits : (keys (entry :: log)).card ≤ table.length) :
    Represents vacant (put vacant entry.1 entry.2 table).1 (entry :: log) := by
  have known : lookup entry.1 table = lookup entry.1 log := represents.agrees entry.1 proper
  have room := represents.room
  rw [keys_cons] at fits
  by_cases held : lookup entry.1 table = none
  · have absent : entry.1 ∉ keys log := by
      intro member
      exact lookup_of_mem_keys member (known ▸ held)
    rw [Finset.card_insert_of_notMem absent] at fits
    constructor
    · intro key different
      rw [lookup_put (Or.inr (by omega)) different, lookup, represents.agrees key different]
      simp only [eq_comm]
    · rw [vacancies_put proper, if_pos held, length_put, keys_cons,
        Finset.card_insert_of_notMem absent]
      omega
  · have present : entry.1 ∈ keys log := mem_keys_of_lookup (known ▸ held)
    constructor
    · intro key different
      rw [lookup_put (Or.inl held) different, lookup, represents.agrees key different]
      simp only [eq_comm]
    · rw [vacancies_put proper, if_neg held, length_put, keys_cons,
        Finset.insert_eq_of_mem present]
      exact room

theorem length_put_all (vacant : Key) (table entries : List (Key × Value)) :
    (putAll vacant table entries).length = table.length := by
  induction entries generalizing table with
  | nil => rfl
  | cons entry rest ih =>
      rw [putAll, List.foldl_cons, ← putAll, ih, length_put]

theorem represents_put_all {vacant : Key} {table log entries : List (Key × Value)}
    (represents : Represents vacant table log) (proper : ∀ entry ∈ entries, entry.1 ≠ vacant)
    (fits : (keys entries ∪ keys log).card ≤ table.length) :
    Represents vacant (putAll vacant table entries) (entries.reverse ++ log) := by
  induction entries generalizing table log with
  | nil => exact represents
  | cons entry rest ih =>
      have union : keys rest ∪ keys (entry :: log) = keys (entry :: rest) ∪ keys log := by
        rw [keys_cons, keys_cons, Finset.union_insert, Finset.insert_union]
      have head : keys (entry :: log) ⊆ keys (entry :: rest) ∪ keys log :=
        union ▸ Finset.subset_union_right
      rw [putAll, List.foldl_cons, ← putAll, List.reverse_cons, List.append_assoc,
        List.singleton_append]
      apply ih
      · apply represents_put represents (proper entry List.mem_cons_self)
        exact (Finset.card_le_card head).trans fits
      · exact fun later member => proper later (List.mem_cons_of_mem _ member)
      · rw [length_put, union]
        exact fits

/-- An empty table takes a list of puts faithfully exactly when it has a slot for
every key. -/
theorem faithful_iff_fits {vacant : Key} {value : Value} {size : Nat}
    {entries : List (Key × Value)} (proper : ∀ entry ∈ entries, entry.1 ≠ vacant) :
    (∀ key, key ≠ vacant →
      lookup key (putAll vacant (List.replicate size (vacant, value)) entries) =
        lookup key entries.reverse) ↔ (keys entries).card ≤ size := by
  constructor
  · intro agrees
    have size_eq : (putAll vacant (List.replicate size (vacant, value)) entries).length = size := by
      rw [length_put_all, List.length_replicate]
    rw [← size_eq]
    apply card_le_of_held
    intro key member
    rw [keys, List.mem_toFinset] at member
    obtain ⟨entry, listed, rfl⟩ := List.mem_map.mp member
    rw [agrees entry.1 (proper entry listed)]
    apply lookup_of_mem_keys
    rw [keys, List.mem_toFinset]
    exact List.mem_map_of_mem (List.mem_reverse.mpr listed)
  · intro fits key different
    have represents := represents_put_all (represents_empty vacant value size) proper
      (by simpa [keys] using fits)
    rw [represents.agrees key different, List.append_nil]

section Changes

omit [DecidableEq Value] in
theorem overwrite_absent {old : Key} {entry : Key × Value} {table : List (Key × Value)}
    (absent : lookup old table = none) : overwriteFirst old entry table = table := by
  induction table with
  | nil => rfl
  | cons slot rest ih =>
      rw [lookup] at absent
      split_ifs at absent with same
      rw [overwriteFirst, if_neg same, ih absent]

omit [DecidableEq Value] in
theorem lookup_overwrite_other {old other : Key} {entry : Key × Value}
    {table : List (Key × Value)} (apart : other ≠ entry.1) (kept : other ≠ old) :
    lookup other (overwriteFirst old entry table) = lookup other table := by
  by_cases held : lookup old table = none
  · rw [overwrite_absent held]
  · induction table with
    | nil => exact absurd rfl held
    | cons slot rest ih =>
        rw [overwriteFirst]
        by_cases first : slot.1 = old
        · rw [if_pos first, lookup, if_neg apart.symm, lookup, first, if_neg kept.symm]
        · rw [lookup, if_neg first] at held
          rw [if_neg first, lookup, lookup, ih held]

theorem lookup_put_other {vacant key other : Key} {value : Value} {table : List (Key × Value)}
    (apart : other ≠ key) (proper : other ≠ vacant) :
    lookup other (put vacant key value table).1 = lookup other table := by
  unfold put
  split
  · split_ifs
    · rfl
    · exact lookup_overwrite_other apart apart
  · exact lookup_overwrite_other apart proper

/-- After a put its key has the value, or there was no slot for it. -/
theorem lookup_put_self {vacant key : Key} {value found : Value} {table : List (Key × Value)}
    (proper : key ≠ vacant) (held : lookup key (put vacant key value table).1 = some found) :
    found = value := by
  by_cases room : lookup key table ≠ none ∨ 0 < vacancies vacant table
  · rw [lookup_put room proper, if_pos rfl] at held
    exact (Option.some.inj held).symm
  · push Not at room
    have full : lookup vacant table = none := by
      by_contra free
      have member := mem_keys_of_lookup free
      rw [keys, List.mem_toFinset] at member
      obtain ⟨slot, listed, same⟩ := List.mem_map.mp member
      have counted : 0 < vacancies vacant table :=
        List.countP_pos_iff.mpr ⟨slot, listed, decide_eq_true same⟩
      exact absurd counted (not_lt.mpr room.2)
    unfold put at held
    simp only [room.1] at held
    rw [overwrite_absent full, room.1] at held
    cases held

def latest (key : Key) : List (Key × Value) → Option Value
  | [] => none
  | entry :: rest => (latest key rest).or (if entry.1 = key then some entry.2 else none)

omit [DecidableEq Value] in
theorem latest_append (key : Key) (first second : List (Key × Value)) :
    latest key (first ++ second) = (latest key second).or (latest key first) := by
  induction first with
  | nil => simp [latest]
  | cons entry rest ih => rw [List.cons_append, latest, ih, latest, Option.or_assoc]

omit [DecidableEq Value] in
theorem latest_eq_none {key : Key} {entries : List (Key × Value)} :
    latest key entries = none ↔ ∀ entry ∈ entries, entry.1 ≠ key := by
  induction entries with
  | nil => simp [latest]
  | cons entry rest ih =>
      rw [latest, Option.or_eq_none_iff, ih, List.forall_mem_cons, and_comm]
      simp

omit [DecidableEq Value] in
theorem mem_of_latest {key : Key} {value : Value} {entries : List (Key × Value)}
    (last : latest key entries = some value) : (key, value) ∈ entries := by
  induction entries with
  | nil => cases last
  | cons entry rest ih =>
      rw [latest, Option.or_eq_some_iff] at last
      rcases last with later | ⟨-, here⟩
      · exact List.mem_cons_of_mem _ (ih later)
      · split_ifs at here with same
        rw [← Option.some.inj here, ← same]
        exact List.mem_cons_self

omit [DecidableEq Value] in
theorem latest_of_nodup {key : Key} {value : Value} {entries : List (Key × Value)}
    (distinct : (entries.map Prod.fst).Nodup) (member : (key, value) ∈ entries) :
    latest key entries = some value := by
  induction entries with
  | nil => cases member
  | cons entry rest ih =>
      rw [List.map_cons, List.nodup_cons] at distinct
      rw [latest]
      rcases List.mem_cons.mp member with rfl | later
      · have absent : latest key rest = none := by
          rw [latest_eq_none]
          rintro other listed rfl
          exact distinct.1 (List.mem_map.mpr ⟨other, listed, rfl⟩)
        rw [absent, if_pos rfl, Option.none_or]
      · rw [ih distinct.2 later, Option.some_or]

/-- The entries of a list of puts that find their value new. -/
def changes (vacant : Key) (table : List (Key × Value)) :
    List (Key × Value) → List (Key × Value)
  | [] => []
  | entry :: rest =>
      let answered := put vacant entry.1 entry.2 table
      if answered.2 then entry :: changes vacant answered.1 rest
      else changes vacant answered.1 rest

theorem changes_append (vacant : Key) (table first second : List (Key × Value)) :
    changes vacant table (first ++ second) =
      changes vacant table first ++ changes vacant (putAll vacant table first) second := by
  induction first generalizing table with
  | nil => rfl
  | cons entry rest ih =>
      simp only [List.cons_append, changes, ih, putAll, List.foldl_cons]
      split_ifs <;> rfl

variable {vacant key : Key} {table entries : List (Key × Value)}

/-- Nothing changes under a key that has the value of all its entries already. -/
theorem no_change_iff (proper : key ≠ vacant) :
    latest key (changes vacant table entries) = none ↔
      ∀ entry ∈ entries, entry.1 = key → lookup key table = some entry.2 := by
  induction entries generalizing table with
  | nil => simp [changes, latest]
  | cons entry rest ih =>
      rw [List.forall_mem_cons, changes]
      by_cases here : entry.1 = key
      · cases answer : (put vacant entry.1 entry.2 table).2 with
        | true =>
            have new : lookup key table ≠ some entry.2 := by
              rw [← here, Ne, ← put_unchanged vacant, answer]
              exact Bool.noConfusion
            simp [latest, here, new]
        | false =>
            have held := (put_unchanged vacant entry.1 entry.2 table).mp answer
            have same : (put vacant entry.1 entry.2 table).1 = table := by
              unfold put
              simp [held]
            rw [here] at held
            simp [same, ih, held]
      · have kept := @lookup_put_other Key Value _ _ vacant entry.1 key entry.2 table
          (fun same => here same.symm) proper
        have later := @ih (put vacant entry.1 entry.2 table).1
        rw [kept] at later
        simp only [here, false_implies, true_and, ← later]
        split_ifs
        · rw [latest, if_neg here, Option.or_none]
        · rfl

/-- What changes last under a key is its last entry. -/
theorem latest_change (proper : key ≠ vacant) :
    latest key (changes vacant table entries) = none ∨
      latest key (changes vacant table entries) = latest key entries := by
  induction entries generalizing table with
  | nil => exact Or.inl rfl
  | cons entry rest ih =>
      rw [changes, latest]
      rcases @ih (put vacant entry.1 entry.2 table).1 with quiet | same
      · split_ifs with new here here
        · right
          rw [latest, quiet, if_pos here, Option.none_or]
          cases last : latest key rest with
          | none => rfl
          | some value =>
              have held : lookup key (put vacant entry.1 entry.2 table).1 = some value :=
                (no_change_iff proper).mp quiet _ (mem_of_latest last) rfl
              rw [← here] at held proper
              rw [Option.some_or, lookup_put_self proper held]
        · left
          rw [latest, quiet, if_neg here, Option.or_none]
        · exact Or.inl quiet
        · exact Or.inl quiet
      · by_cases later : latest key rest = none
        · rw [later] at same ⊢
          simp only [Option.none_or]
          split_ifs with new here here
          · exact Or.inr (by rw [latest, same, if_pos here, Option.none_or])
          · exact Or.inr (by rw [latest, same, if_neg here, Option.none_or])
          · exact Or.inl same
          · exact Or.inl same
        · obtain ⟨value, last⟩ := Option.ne_none_iff_exists'.mp later
          right
          rw [last] at same ⊢
          simp only [Option.some_or]
          split_ifs
          · rw [latest, same, Option.some_or]
          · exact same

/-- A key that has a slot at the end has the value it was changed to last. -/
theorem lookup_put_all (proper : key ≠ vacant) {value : Value}
    (held : lookup key (putAll vacant table entries) = some value) :
    (latest key (changes vacant table entries)).or (lookup key table) = some value := by
  induction entries generalizing table with
  | nil => simpa [changes, latest, putAll] using held
  | cons entry rest ih =>
      rw [putAll, List.foldl_cons, ← putAll] at held
      have later := ih held
      rw [changes]
      by_cases here : entry.1 = key
      · cases answer : (put vacant entry.1 entry.2 table).2 with
        | true =>
            rw [if_pos rfl, latest, if_pos here]
            cases last : latest key (changes vacant (put vacant entry.1 entry.2 table).1 rest) with
            | some => simpa [last] using later
            | none =>
                rw [last, Option.none_or, ← here] at later
                rw [← here] at proper
                rw [lookup_put_self proper later]
                rfl
        | false =>
            have known := (put_unchanged vacant entry.1 entry.2 table).mp answer
            have same : (put vacant entry.1 entry.2 table).1 = table := by
              unfold put
              simp [known]
            rw [same] at later ⊢
            simpa using later
      · rw [lookup_put_other (fun same => here same.symm) proper] at later
        split_ifs
        · rw [latest, if_neg here, Option.or_none]
          exact later
        · exact later

/-- A key that has a slot at the end has the value of its last entry. -/
theorem lookup_put_all_latest (proper : key ≠ vacant) {value last : Value}
    (held : lookup key (putAll vacant table entries) = some value)
    (final : latest key entries = some last) : value = last := by
  have changed := lookup_put_all proper held
  rcases @latest_change Key Value _ _ vacant key table entries proper with quiet | same
  · have known : lookup key table = some last :=
      (no_change_iff proper).mp quiet _ (mem_of_latest final) rfl
    rw [quiet, Option.none_or, known] at changed
    exact (Option.some.inj changed).symm
  · rw [same, final, Option.some_or] at changed
    exact (Option.some.inj changed).symm

end Changes

end Foundation.SlotTable
