import Mathlib.Algebra.GroupWithZero.Nat
import Mathlib.Data.List.Basic
import Mathlib.Tactic.Common

/-!
# Packets in a stream of bytes

A stream arrives in pieces. The receiver keeps what it could not use yet, and takes packets
off the front as long as there are any. The record it parses into is not cleared between
the packets of one piece, so that what it holds may depend on how the stream was cut. What
is read of the packets themselves does not.
-/

namespace Foundation.PacketStream

set_option autoImplicit false

variable {Byte Carried Content Item : Type*}

inductive Parsed (Carried : Type*) where
  | incomplete
  | malformed
  | packet (next : Carried) (length : Nat)

def Parsed.map (content : Carried → Content) : Parsed Carried → Parsed Content
  | .incomplete => .incomplete
  | .malformed => .malformed
  | .packet next length => .packet (content next) length

/-- Each packet with the buffer it stood in. There is no buffer after a malformed packet. -/
structure Drained (Byte Carried : Type*) where
  handled : List (Carried × List Byte)
  pending : Option (List Byte)

variable (parse : Carried → List Byte → Parsed Carried) (start : Carried)

section Receiver

def drainPackets : Nat → Carried → List Byte → Drained Byte Carried
  | 0, _, bytes => { handled := [], pending := some bytes }
  | left + 1, carried, bytes =>
      match parse carried bytes with
      | .incomplete => { handled := [], pending := some bytes }
      | .malformed => { handled := [], pending := none }
      | .packet next length =>
          let later := drainPackets left next (bytes.drop length)
          { later with handled := (next, bytes) :: later.handled }

/-- A packet has at least one byte. -/
def drained (carried : Carried) (bytes : List Byte) : Drained Byte Carried :=
  drainPackets parse bytes.length carried bytes

def receive (pending : Option (List Byte)) (piece : List Byte) : Drained Byte Carried :=
  match pending with
  | none => { handled := [], pending := none }
  | some bytes => drained parse start (bytes ++ piece)

def receiveAll : Option (List Byte) → List (List Byte) →
    List (List (Carried × List Byte)) × Option (List Byte)
  | pending, [] => ([], pending)
  | pending, piece :: pieces =>
      let here := receive parse start pending piece
      let later := receiveAll here.pending pieces
      (here.handled :: later.1, later.2)

end Receiver

def contents (content : Carried → Content) (handled : List (Carried × List Byte)) : List Content :=
  handled.map fun packet => content packet.1

/-- The parser decides by the bytes of a packet alone. -/
structure Framing (content : Carried → Content) : Prop where
  waits : ∀ carried, parse carried [] = .incomplete
  consumes : ∀ {carried bytes next length}, parse carried bytes = .packet next length →
    0 < length ∧ length ≤ bytes.length
  keeps : ∀ {carried bytes next length}, parse carried bytes = .packet next length →
    ∀ later, parse carried (bytes ++ later) = .packet next length
  rejects : ∀ {carried bytes}, parse carried bytes = .malformed →
    ∀ later, parse carried (bytes ++ later) = .malformed
  independent : ∀ first second bytes,
    (parse first bytes).map content = (parse second bytes).map content

variable {parse start} {content : Carried → Content}

section Steps

variable {carried next : Carried} {bytes : List Byte} {length : Nat}

theorem drained_incomplete (waits : parse carried bytes = .incomplete) :
    drained parse carried bytes = { handled := [], pending := some bytes } := by
  unfold drained
  cases bytes with
  | nil => rfl
  | cons byte rest => rw [List.length_cons, drainPackets, waits]

theorem drained_malformed (framing : Framing parse content)
    (rejects : parse carried bytes = .malformed) :
    drained parse carried bytes = { handled := [], pending := none } := by
  unfold drained
  cases bytes with
  | nil =>
      rw [framing.waits] at rejects
      cases rejects
  | cons byte rest => rw [List.length_cons, drainPackets, rejects]

theorem drain_packets_enough (framing : Framing parse content) {first second : Nat}
    {bytes : List Byte} (carried : Carried) (enough : bytes.length ≤ first)
    (also : bytes.length ≤ second) :
    drainPackets parse first carried bytes = drainPackets parse second carried bytes := by
  induction first generalizing second carried bytes with
  | zero =>
      rw [List.length_eq_zero_iff.mp (Nat.le_zero.mp enough)]
      cases second with
      | zero => rfl
      | succ second => rw [drainPackets, drainPackets, framing.waits]
  | succ first ih =>
      cases second with
      | zero =>
          rw [List.length_eq_zero_iff.mp (Nat.le_zero.mp also), drainPackets, drainPackets,
            framing.waits]
      | succ second =>
          rw [drainPackets, drainPackets]
          cases parsed : parse carried bytes with
          | incomplete => rfl
          | malformed => rfl
          | packet next length =>
              have used := framing.consumes parsed
              have shorter : (bytes.drop length).length < bytes.length := by
                rw [List.length_drop]
                omega
              have same := @ih second (bytes.drop length) next (by omega) (by omega)
              simp only [same]

theorem drained_packet (framing : Framing parse content)
    (parsed : parse carried bytes = .packet next length) :
    drained parse carried bytes =
      { drained parse next (bytes.drop length) with
        handled := (next, bytes) :: (drained parse next (bytes.drop length)).handled } := by
  have used := framing.consumes parsed
  obtain ⟨left, lengthy⟩ := Nat.exists_eq_succ_of_ne_zero (show bytes.length ≠ 0 by omega)
  have shorter : (bytes.drop length).length ≤ left := by
    rw [List.length_drop]
    omega
  have same := drain_packets_enough framing next shorter (Nat.le_refl (bytes.drop length).length)
  rw [drained, lengthy, Nat.succ_eq_add_one, drainPackets, parsed]
  simp only [same]
  rfl

end Steps

section Pieces

def outcome (content : Carried → Content) (drained : Drained Byte Carried) :
    List Content × Option (List Byte) :=
  (contents content drained.handled, drained.pending)

theorem map_packet {carried : Carried} {bytes : List Byte} {read : Content} {length : Nat}
    (parsed : (parse carried bytes).map content = .packet read length) :
    ∃ next, parse carried bytes = .packet next length ∧ content next = read := by
  cases here : parse carried bytes with
  | incomplete => rw [here] at parsed; cases parsed
  | malformed => rw [here] at parsed; cases parsed
  | packet next used =>
      rw [here] at parsed
      cases parsed
      exact ⟨next, rfl, rfl⟩

/-- The outcome does not depend on what the record held before. -/
theorem outcome_independent (framing : Framing parse content) (first second : Carried)
    (bytes : List Byte) :
    outcome content (drained parse first bytes) = outcome content (drained parse second bytes) := by
  induction lengthy : bytes.length using Nat.strongRecOn generalizing first second bytes with
  | ind size ih =>
      have same := framing.independent first second bytes
      cases parsed : parse first bytes with
      | incomplete =>
          rw [parsed] at same
          cases other : parse second bytes with
          | incomplete => rw [drained_incomplete parsed, drained_incomplete other]
          | malformed => rw [other] at same; cases same
          | packet next length => rw [other] at same; cases same
      | malformed =>
          rw [parsed] at same
          cases other : parse second bytes with
          | incomplete => rw [other] at same; cases same
          | malformed => rw [drained_malformed framing parsed, drained_malformed framing other]
          | packet next length => rw [other] at same; cases same
      | packet next length =>
          rw [parsed] at same
          obtain ⟨otherNext, other, read⟩ := map_packet same.symm
          have used := framing.consumes parsed
          have shorter : (bytes.drop length).length < size := by
            rw [List.length_drop]
            omega
          have rest := ih _ shorter next otherNext _ rfl
          rw [drained_packet framing parsed, drained_packet framing other]
          unfold outcome contents at rest ⊢
          simp only [List.map_cons, Prod.mk.injEq, read] at rest ⊢
          exact ⟨congrArg (content next :: ·) rest.1, rest.2⟩

/-- A buffer may as well be taken in two pieces. -/
theorem drained_append (framing : Framing parse content) (carried : Carried)
    (bytes later : List Byte) :
    outcome content (drained parse carried (bytes ++ later)) =
      (contents content (drained parse carried bytes).handled ++
          contents content
            (receive parse start (drained parse carried bytes).pending later).handled,
        (receive parse start (drained parse carried bytes).pending later).pending) := by
  induction lengthy : bytes.length using Nat.strongRecOn generalizing carried bytes with
  | ind size ih =>
      cases parsed : parse carried bytes with
      | incomplete =>
          rw [drained_incomplete parsed, outcome_independent framing carried start]
          rfl
      | malformed =>
          rw [drained_malformed framing parsed, drained_malformed framing (framing.rejects parsed later)]
          rfl
      | packet next length =>
          have used := framing.consumes parsed
          have shorter : (bytes.drop length).length < size := by
            rw [List.length_drop]
            omega
          have rest := ih _ shorter next _ rfl
          rw [drained_packet framing parsed, drained_packet framing (framing.keeps parsed later),
            List.drop_append_of_le_length used.2]
          unfold outcome contents at rest ⊢
          simp only [Prod.mk.injEq, List.map_cons, List.cons_append] at rest ⊢
          exact ⟨congrArg (content next :: ·) rest.1, rest.2⟩

/-- However a stream is cut, its packets come out once each and in order. -/
theorem received_contents (framing : Framing parse content) (carried : Carried)
    (bytes : List Byte) (pieces : List (List Byte)) :
    outcome content (drained parse carried (bytes ++ pieces.flatten)) =
      (contents content (drained parse carried bytes).handled ++
          (receiveAll parse start (drained parse carried bytes).pending pieces).1.flatMap
            (contents content),
        (receiveAll parse start (drained parse carried bytes).pending pieces).2) := by
  induction pieces generalizing bytes with
  | nil => simp [receiveAll, outcome]
  | cons piece pieces ih =>
      have split := @drained_append _ _ _ parse start content framing carried bytes piece
      have rest := ih (bytes ++ piece)
      obtain ⟨handled, pending⟩ := Prod.mk.inj split
      rw [handled, pending] at rest
      rw [List.flatten_cons, ← List.append_assoc, rest, receiveAll, List.flatMap_cons,
        ← List.append_assoc]

end Pieces

section Carried

variable {Value : Type*} {value : Carried → Value} {update : Value → Content → Value}

/-- The value that each packet carries comes from its own content and the value before. -/
def Carries (value : Carried → Value) (update : Value → Content → Value)
    (content : Carried → Content) : Value → List (Carried × List Byte) → Prop
  | _, [] => True
  | before, packet :: rest =>
      value packet.1 = update before (content packet.1) ∧
        Carries value update content (value packet.1) rest

theorem drained_carries (framing : Framing parse content)
    (updates : ∀ {carried bytes next length}, parse carried bytes = .packet next length →
      value next = update (value carried) (content next))
    (carried : Carried) (bytes : List Byte) :
    Carries value update content (value carried) (drained parse carried bytes).handled := by
  induction lengthy : bytes.length using Nat.strongRecOn generalizing carried bytes with
  | ind size ih =>
      cases parsed : parse carried bytes with
      | incomplete =>
          rw [drained_incomplete parsed]
          trivial
      | malformed =>
          rw [drained_malformed framing parsed]
          trivial
      | packet next length =>
          have used := framing.consumes parsed
          have shorter : (bytes.drop length).length < size := by
            rw [List.length_drop]
            omega
          rw [drained_packet framing parsed]
          exact ⟨updates parsed, ih _ shorter next _ rfl⟩

/-- What a packet carries is made up by the packets of its piece before it. -/
theorem carries_value {before : Value} {front back : List (Carried × List Byte)}
    {packet : Carried × List Byte}
    (carries : Carries value update content before (front ++ packet :: back)) :
    value packet.1 = (contents content (front ++ [packet])).foldl update before := by
  induction front generalizing before with
  | nil => exact carries.1
  | cons first front ih =>
      rw [ih carries.2, carries.1]
      rfl

end Carried

section Encoded

/-- A way to write items that the parser reads back, whatever follows. -/
structure ReadsBack (parse : Carried → List Byte → Parsed Carried) (content : Carried → Content)
    (encode : Item → List Byte) (read : Item → Content) (fits : Item → Prop) : Prop where
  parses : ∀ {item}, fits item → ∀ carried later, ∃ next,
    parse carried (encode item ++ later) = .packet next (encode item).length ∧
      content next = read item

variable {encode : Item → List Byte} {read : Item → Content} {fits : Item → Prop}

theorem drained_encoded (framing : Framing parse content)
    (back : ReadsBack parse content encode read fits) {items : List Item}
    (fit : ∀ item ∈ items, fits item) (carried : Carried) :
    outcome content (drained parse carried (items.flatMap encode)) =
      (items.map read, some []) := by
  induction items generalizing carried with
  | nil => rfl
  | cons item items ih =>
      obtain ⟨next, parsed, same⟩ := back.parses (fit item List.mem_cons_self) carried
        (items.flatMap encode)
      have rest := ih (fun later member => fit later (List.mem_cons_of_mem _ member)) next
      unfold outcome contents at rest ⊢
      rw [List.flatMap_cons, drained_packet framing parsed, List.drop_left]
      simp only [Prod.mk.injEq, List.map_cons, same] at rest ⊢
      exact ⟨congrArg (read item :: ·) rest.1, rest.2⟩

/-- The items that `held` bytes of a stream complete, the bytes behind them and the items that
are still to come. -/
def completed (size : Item → Nat) : Nat → List Item → List Item × Nat × List Item
  | held, [] => ([], held, [])
  | held, item :: rest =>
      if size item ≤ held then
        let later := completed size (held - size item) rest
        (item :: later.1, later.2)
      else ([], held, item :: rest)

section Completed

variable {size : Item → Nat} {held : Nat} {items : List Item}

theorem completed_append : (completed size held items).1 ++ (completed size held items).2.2 = items := by
  induction items generalizing held with
  | nil => rfl
  | cons item rest ih =>
      unfold completed
      split_ifs
      · exact congrArg (item :: ·) ih
      · rfl

theorem mem_of_completed {item : Item}
    (member : item ∈ (completed size held items).1 ∨ item ∈ (completed size held items).2.2) :
    item ∈ items := by
  rw [← @completed_append _ size held items]
  exact List.mem_append.mpr member

theorem completed_held :
    ((completed size held items).1.map size).sum + (completed size held items).2.1 = held := by
  induction items generalizing held with
  | nil => exact Nat.zero_add held
  | cons item rest ih =>
      unfold completed
      split_ifs with complete
      · have later := @ih (held - size item)
        simp only [List.map_cons, List.sum_cons]
        omega
      · exact Nat.zero_add held

/-- The bytes behind the completed items do not complete another one. -/
theorem completed_waits {item : Item} (next : item ∈ (completed size held items).2.2.head?) :
    (completed size held items).2.1 < size item := by
  induction items generalizing held with
  | nil => cases next
  | cons first rest ih =>
      unfold completed at next ⊢
      split_ifs at next ⊢ with complete
      · exact ih next
      · cases next
        exact Nat.lt_of_not_le complete

end Completed

/-- The part of a stream that has arrived is drained to the items that it completes. -/
theorem drained_completed (framing : Framing parse content)
    (back : ReadsBack parse content encode read fits) {items : List Item}
    (fit : ∀ item ∈ items, fits item) (carried : Carried) {bytes later : List Byte}
    (stream : bytes ++ later = items.flatMap encode) :
    let done := completed (fun item => (encode item).length) bytes.length items
    contents content (drained parse carried bytes).handled = done.1.map read ∧
      ∃ left, (drained parse carried bytes).pending = some left ∧ left.length = done.2.1 ∧
        left ++ later = done.2.2.flatMap encode := by
  induction items generalizing carried bytes with
  | nil =>
      obtain ⟨rfl, rfl⟩ := List.append_eq_nil_iff.mp stream
      rw [drained_incomplete (framing.waits carried)]
      exact ⟨rfl, [], rfl, rfl, rfl⟩
  | cons item items ih =>
      obtain ⟨next, whole, same⟩ := back.parses (fit item List.mem_cons_self) carried
        (items.flatMap encode)
      rw [← List.flatMap_cons, ← stream] at whole
      by_cases complete : (encode item).length ≤ bytes.length
      · have split : bytes = encode item ++ bytes.drop (encode item).length := by
          have begins := congrArg (List.take (encode item).length) stream
          rw [List.take_append_of_le_length complete, List.flatMap_cons, List.take_left] at begins
          rw [← begins, List.length_take, Nat.min_eq_left complete, List.take_append_drop]
        have rest : bytes.drop (encode item).length ++ later = items.flatMap encode := by
          have behind := congrArg (List.drop (encode item).length) stream
          rwa [List.drop_append_of_le_length complete, List.flatMap_cons, List.drop_left] at behind
        obtain ⟨here, parsed, reads⟩ := back.parses (fit item List.mem_cons_self) carried
          (bytes.drop (encode item).length)
        rw [← split] at parsed
        have behind := ih (fun later member => fit later (List.mem_cons_of_mem _ member)) here rest
        rw [List.length_drop] at behind
        rw [drained_packet framing parsed]
        simp only [completed, if_pos complete, contents, List.map_cons, reads] at behind ⊢
        exact ⟨congrArg (read item :: ·) behind.1, behind.2⟩
      · have waits : parse carried bytes = .incomplete := by
          cases parsed : parse carried bytes with
          | incomplete => rfl
          | malformed =>
              rw [framing.rejects parsed later] at whole
              cases whole
          | packet next length =>
              rw [framing.keeps parsed later] at whole
              cases whole
              exact absurd (framing.consumes parsed).2 complete
        rw [drained_incomplete waits]
        simp only [completed, if_neg complete]
        exact ⟨rfl, bytes, rfl, rfl, stream⟩

/-- However the stream is cut, the items come out once each and in order. -/
theorem encoded_arrive (framing : Framing parse content)
    (back : ReadsBack parse content encode read fits) {items : List Item}
    (fit : ∀ item ∈ items, fits item) {pieces : List (List Byte)}
    (cut : pieces.flatten = items.flatMap encode) :
    (receiveAll parse start (some []) pieces).1.flatMap (contents content) = items.map read ∧
      (receiveAll parse start (some []) pieces).2 = some [] := by
  have arrived := @received_contents _ _ _ parse start content framing start [] pieces
  rw [List.nil_append, cut, drained_encoded framing back fit] at arrived
  obtain ⟨handled, pending⟩ := Prod.mk.inj arrived
  exact ⟨handled.symm, pending.symm⟩

end Encoded

end Foundation.PacketStream
