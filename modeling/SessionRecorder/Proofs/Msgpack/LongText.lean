import SessionRecorder.Proofs.Msgpack.Written

/-!
The length of a text of 2 ^ 32 octets is more than a header can say. The header that is written is
that of an empty text: this is read, and the octets of the text are read in place of what stands
behind it. Main statements: `read_str_overlong` and `read_map_overlong`.
-/

namespace SessionRecorder.Msgpack

open Text

variable {budget : Nat}

theorem read_map {entries : List (Msgpack × Msgpack)} (h : entries.length < 2 ^ 32)
    (rest : Bytes) : read (budget + 2) ((map entries).write ++ rest) =
      (readMany (readEntry (read budget)) entries.length (writeEntries entries ++ rest)).map
        fun r => (.map r.1, r.2) := by
  rw [write, List.append_assoc, read_mapHeader, UInt32.toNat_ofNat_of_lt' h, readEntries,
    if_neg (by omega), inside]
  cases readMany (readEntry (read budget)) entries.length (writeEntries entries ++ rest) <;> rfl

theorem writeEntries_append (front back : List (Msgpack × Msgpack)) :
    writeEntries (front ++ back) = writeEntries front ++ writeEntries back := by
  induction front with
  | nil => rfl
  | cons e rest ih => simp only [List.cons_append, writeEntries, ih, List.append_assoc]

/-- Entries that are read back stand in front of what is read behind them. -/
theorem readMany_writeEntries_add {front : List (Msgpack × Msgpack)}
    (h : ∀ e ∈ front, e.1.Within budget ∧ e.2.Within budget) (count : Nat) (bs : Bytes) :
    readMany (readEntry (read budget)) (front.length + count) (writeEntries front ++ bs) =
      (readMany (readEntry (read budget)) count bs).map fun r => (front ++ r.1, r.2) := by
  induction front with
  | nil =>
    rw [List.length_nil, Nat.zero_add, writeEntries, List.nil_append]
    cases readMany (readEntry (read budget)) count bs <;> rfl
  | cons e rest ih =>
    obtain ⟨key, value⟩ := e
    obtain ⟨⟨hkey, hvalue⟩, hrest⟩ := List.forall_mem_cons.1 h
    rw [List.length_cons, Nat.add_right_comm, readMany, writeEntries, List.append_assoc,
      List.append_assoc, readEntry_of_read (read_write key hkey.1 hkey.2 _)
        (read_write value hvalue.1 hvalue.2 _)]
    change (readMany _ _ _ >>= _) = _
    rw [ih hrest]
    cases readMany (readEntry (read budget)) count bs <;> rfl

/-- Letters are the entries of a map as well as a text. -/
theorem writeEntries_replicate (n : Nat) :
    writeEntries (List.replicate n (uint 97, uint 97)) = List.replicate (2 * n) 0x61 := by
  have hletter : (uint 97).write = [0x61] := by decide
  induction n with
  | zero => rfl
  | succ n ih =>
    rw [List.replicate_succ, writeEntries, ih, hletter]
    rfl

/-- A text of 2 ^ 32 octets is written behind the header of an empty one, and its octets are left
over. -/
theorem read_str_overlong {text : String} (h : (utf8 text).length = 2 ^ 32) (hbudget : 3 ≤ budget)
    (rest : Bytes) : read budget ((str text).write ++ rest) = .ok (.str "", utf8 text ++ rest) := by
  obtain ⟨budget, rfl⟩ : ∃ more, budget = more + 1 := ⟨budget - 1, by omega⟩
  rw [write, List.append_assoc, read_strHeader, h]
  exact @readStr_utf8 budget (by omega) "" (utf8 text ++ rest)

/-- A map whose first value is such a text: if its octets begin with as many entries as stand
behind it, these are read in place of them. -/
theorem read_map_overlong {key : Msgpack} {text : String} {others stray : List (Msgpack × Msgpack)}
    {left : Bytes} (hkey : key.Within budget)
    (hstray : ∀ e ∈ stray, e.1.Within budget ∧ e.2.Within budget)
    (hcount : stray.length = others.length) (hlength : (utf8 text).length = 2 ^ 32)
    (htext : utf8 text = writeEntries stray ++ left) (hbudget : 3 ≤ budget)
    (hothers : others.length + 1 < 2 ^ 32) :
    read (budget + 2) (map ((key, .str text) :: others)).write =
      .ok (.map ((key, .str "") :: stray), left ++ writeEntries others) := by
  have hmap := @read_map budget ((key, .str text) :: others) hothers []
  have hrest := readMany_writeEntries_add hstray 0 (left ++ writeEntries others)
  rw [Nat.add_zero, hcount, ← List.append_assoc, ← htext] at hrest
  rw [List.append_nil, List.append_nil, List.length_cons, writeEntries,
    readMany_cons (readEntry_of_read (read_write key hkey.1 hkey.2 _)
      (read_str_overlong hlength hbudget _)) hrest] at hmap
  rw [hmap]
  change Except.ok (Msgpack.map ((key, .str "") :: (stray ++ [])), _) = _
  rw [List.append_nil]

end SessionRecorder.Msgpack
