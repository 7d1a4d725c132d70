import SessionRecorder.Proofs.Separators
import SessionRecorder.Record.Item

/-!
What the id of an item tells apart. The text of which the id is made joins session, label and
time by colons, and none of them is escaped: a label holds colons of its own. Still a session
without a colon ends at the first one, and the time begins behind the last one, so the text is
that of one session, label and time alone. The id keeps 96 bits of the text's digest. Main
statement: `item_ids_unambiguous`.
-/

namespace SessionRecorder

open Text Digest

namespace Bytes

theorem hexChars_injective {bs bs' : Bytes} (h : hexChars bs = hexChars bs') : bs = bs' := by
  have hread := ofHexChars?_hexChars bs
  rw [h, ofHexChars?_hexChars] at hread
  exact (Option.some.inj hread).symm

/-- The first digits are those of the first octets, two for each. -/
theorem take_hexChars (n : Nat) (bs : Bytes) :
    (hexChars bs).take (2 * n) = hexChars (bs.take n) := by
  induction n generalizing bs with
  | zero => rfl
  | succ n ih =>
    cases bs with
    | nil => simp [hexChars]
    | cons b rest =>
      have hpairs : hexChars (b :: rest) = hexPair b ++ hexChars rest := rfl
      have hsize : 2 * (n + 1) = (hexPair b).length + 2 * n := by
        rw [Nat.mul_succ, Nat.add_comm]
        rfl
      rw [hpairs, hsize, List.take_length_add_append, ih]
      rfl

end Bytes

/-- Whether two octet strings differ though the first 96 bits of their digests agree. -/
def Digest.FrontsCollide (x y : Bytes) : Prop :=
  x ≠ y ∧ (sha256 x).octets.take 12 = (sha256 y).octets.take 12

namespace Item

variable {session session' label label' : String} {time time' : Int64}

/-! ## The text of an id -/

theorem toList_idText (session label : String) (time : Int64) :
    (idText session label time).toList =
      session.toList ++ ':' :: (label.toList ++ ':' :: time.toInt.repr.toList) := by
  simp [idText, toString]

theorem notMem_repr {c : Char} (hc : c.isDigit = false) (n : Nat) : c ∉ n.repr.toList := by
  intro h
  rw [Nat.toList_repr] at h
  have hdigit := Nat.isDigit_of_mem_toDigits (by decide) (by decide) h
  rw [hc] at hdigit
  cases hdigit

theorem toList_repr_negSucc (n : Nat) :
    (Int.negSucc n).repr.toList = '-' :: n.succ.repr.toList := by
  rw [Int.repr, String.toList_append]
  rfl

/-- A number is written with digits and a sign alone. -/
theorem colon_notMem_repr (n : Int) : ':' ∉ n.repr.toList := by
  cases n with
  | ofNat m => exact notMem_repr (by decide) m
  | negSucc m =>
    rw [toList_repr_negSucc, List.mem_cons, not_or]
    exact ⟨by decide, notMem_repr (by decide) m.succ⟩

theorem eq_of_repr_nat {m n : Nat} (h : m.repr.toList = n.repr.toList) : m = n := by
  rw [Nat.toList_repr, Nat.toList_repr] at h
  have hread := congrArg (Nat.ofDigitChars 10 · 0) h
  simpa only [Nat.ofDigitChars_ten_toDigits] using hread

/-- A number is told by its digits and its sign, which is no digit. -/
theorem eq_of_repr {m n : Int} (h : m.repr.toList = n.repr.toList) : m = n := by
  have hsign {a b : Nat} (h : a.repr.toList = '-' :: b.repr.toList) : False :=
    notMem_repr (by decide) a (h ▸ List.mem_cons_self)
  cases m with
  | ofNat a =>
    cases n with
    | ofNat b => exact congrArg Int.ofNat (eq_of_repr_nat h)
    | negSucc b => exact (hsign (h.trans (toList_repr_negSucc b))).elim
  | negSucc a =>
    rw [toList_repr_negSucc] at h
    cases n with
    | ofNat b => exact (hsign h.symm).elim
    | negSucc b =>
      rw [toList_repr_negSucc] at h
      exact congrArg Int.negSucc (Nat.succ.inj (eq_of_repr_nat (List.cons.inj h).2))

/-- The time begins behind the last colon, so the label may hold colons itself. -/
theorem eq_of_label_time
    (h : label.toList ++ ':' :: time.toInt.repr.toList =
      label'.toList ++ ':' :: time'.toInt.repr.toList) : label = label' ∧ time = time' := by
  obtain ⟨hlabel, htime⟩ := eq_of_last_separator (colon_notMem_repr _) (colon_notMem_repr _) h
  exact ⟨String.toList_inj.1 hlabel, Int64.toInt_inj.1 (eq_of_repr htime)⟩

/-- The text tells a session without colon, its label and its time. -/
theorem idText_inj (hsession : ':' ∉ session.toList) (hsession' : ':' ∉ session'.toList) :
    idText session label time = idText session' label' time' ↔
      session = session' ∧ label = label' ∧ time = time' := by
  constructor
  · intro h
    have hlists := congrArg String.toList h
    rw [toList_idText, toList_idText] at hlists
    obtain ⟨hsame, hbehind⟩ := eq_of_first_separator hsession hsession' hlists
    exact ⟨String.toList_inj.1 hsame, eq_of_label_time hbehind⟩
  · rintro ⟨rfl, rfl, rfl⟩
    rfl

/-- Within one session, whatever its name, the text tells label and time. -/
theorem idText_inj_of_session :
    idText session label time = idText session label' time' ↔ label = label' ∧ time = time' := by
  constructor
  · intro h
    have hlists := congrArg String.toList h
    rw [toList_idText, toList_idText] at hlists
    exact eq_of_label_time (List.cons.inj (List.append_cancel_left hlists)).2
  · rintro ⟨rfl, rfl⟩
    rfl

/-! ## The id -/

theorem id_eq_iff :
    id session label time = id session' label' time' ↔
      (sha256 (utf8 (idText session label time))).octets.take 12 =
        (sha256 (utf8 (idText session' label' time'))).octets.take 12 := by
  have hid (session label : String) (time : Int64) :
      id session label time = String.ofList
        (Bytes.hexChars ((sha256 (utf8 (idText session label time))).octets.take 12)) := by
    rw [← Bytes.take_hexChars, id, Text.take, Bytes.hex, String.toList_ofList]
  rw [hid, hid, String.ofList_inj]
  exact ⟨Bytes.hexChars_injective, congrArg Bytes.hexChars⟩

/-- Ids agree where the hashed octets do, and else by a collision alone. -/
theorem id_eq_iff_or_collide :
    id session label time = id session' label' time' ↔
      idText session label time = idText session' label' time' ∨
        FrontsCollide (utf8 (idText session label time)) (utf8 (idText session' label' time')) := by
  rw [id_eq_iff]
  constructor
  · intro h
    by_cases htext : idText session label time = idText session' label' time'
    · exact .inl htext
    · exact .inr ⟨fun hutf8 => htext (utf8_injective hutf8), h⟩
  · rintro (htext | ⟨-, h⟩)
    · rw [htext]
    · exact h

end Item

/-- The octets of which the id of an item is made are those of one session, label and time alone,
if no colon stands in the session. Ids agree for the same three, and else only where two different
octet strings have digests with the same first 96 bits; within one session that holds whatever
stands in its name. -/
theorem item_ids_unambiguous :
    (∀ (session session' label label' : String) (time time' : Int64),
      ':' ∉ session.toList → ':' ∉ session'.toList →
      let octets := utf8 (Item.idText session label time)
      let octets' := utf8 (Item.idText session' label' time')
      (octets = octets' ↔ session = session' ∧ label = label' ∧ time = time') ∧
        (Item.id session label time = Item.id session' label' time' ↔
          (session = session' ∧ label = label' ∧ time = time') ∨ FrontsCollide octets octets')) ∧
    ∀ (session label label' : String) (time time' : Int64),
      Item.id session label time = Item.id session label' time' ↔
        (label = label' ∧ time = time') ∨
          FrontsCollide (utf8 (Item.idText session label time))
            (utf8 (Item.idText session label' time')) := by
  constructor
  · intro session session' label label' time time' hsession hsession' octets octets'
    have htext : Item.idText session label time = Item.idText session' label' time' ↔
        session = session' ∧ label = label' ∧ time = time' := Item.idText_inj hsession hsession'
    have hoctets : octets = octets' ↔ _ := ⟨utf8_injective, congrArg utf8⟩
    exact ⟨hoctets.trans htext, Item.id_eq_iff_or_collide.trans (or_congr_left htext)⟩
  · intro session label label' time time'
    exact Item.id_eq_iff_or_collide.trans (or_congr_left Item.idText_inj_of_session)

/-- A number at the end of a label is not taken for the time. -/
theorem numbered_label_told_apart :
    ':' ∉ "session".toList ∧
      utf8 (Item.idText "session" "tool:pre:1" (-1)) ≠ utf8 (Item.idText "session" "tool:pre" 1) ∧
      Item.id "session" "tool:pre:1" (-1) ≠ Item.id "session" "tool:pre" 1 := by
  have hsession : ':' ∉ "session".toList := by decide
  obtain ⟨hoctets, -⟩ := item_ids_unambiguous.1 "session" "session" "tool:pre:1" "tool:pre" (-1) 1
    hsession hsession
  have hids := item_ids_unambiguous.2 "session" "tool:pre:1" "tool:pre" (-1) 1
  refine ⟨hsession, fun h => ?_, fun h => ?_⟩
  · exact absurd (hoctets.1 h).2.1 (by decide)
  · rcases hids.1 h with ⟨hlabel, -⟩ | ⟨-, hfronts⟩
    · exact absurd hlabel (by decide)
    · exact absurd hfronts (by decide +kernel)

/-- With a colon in a session its end is not known. -/
example : Item.idText "a:b" "c" 0 = Item.idText "a" "b:c" 0 := by decide +kernel

end SessionRecorder
