import SessionRecorder.Msgpack.Reader
import SessionRecorder.Msgpack.Writer

/-!
Written values are read back, whatever follows them, as long as their lengths have
fields and their nesting is within the budget. Main statement: `read_write`.
-/

namespace SessionRecorder.Msgpack

open Bytes Text

/-! ## Values that can be read back -/

mutual

/-- Whether every string is text, and every length has a field that holds it. -/
def fits : Msgpack → Bool
  | .str s => (utf8 s).length < 2 ^ 32
  | .badStr _ => false
  | .bin bytes => bytes.length < 2 ^ 32
  | .array items => items.length < 2 ^ 32 && fitsItems items
  | .map entries => entries.length < 2 ^ 32 && fitsEntries entries
  | .ext _ bytes => bytes.length < 2 ^ 32
  | _ => true

def fitsItems : List Msgpack → Bool
  | [] => true
  | item :: rest => item.fits && fitsItems rest

def fitsEntries : List (Msgpack × Msgpack) → Bool
  | [] => true
  | (key, value) :: rest => key.fits && value.fits && fitsEntries rest

end

mutual

/-- What the reading of a written value takes from the budget. -/
def cost : Msgpack → Nat
  | .str _ => 3
  | .badStr _ => 2
  | .bin _ => 2
  | .array items => costItems items + 2
  | .map entries => costEntries entries + 2
  | .ext .. => 3
  | _ => 1

def costItems : List Msgpack → Nat
  | [] => 0
  | item :: rest => max item.cost (costItems rest)

def costEntries : List (Msgpack × Msgpack) → Nat
  | [] => 0
  | (key, value) :: rest => max (max key.cost value.cost) (costEntries rest)

end

theorem cost_pos (v : Msgpack) : 0 < v.cost := by
  cases v <;> simp only [cost] <;> omega

/-- Whether a value is read back within a budget once it is written. -/
def Within (budget : Nat) (v : Msgpack) : Prop := v.fits = true ∧ v.cost ≤ budget

theorem within_str {s : String} {budget : Nat} (hs : (utf8 s).length < 2 ^ 32)
    (hbudget : 3 ≤ budget) : (str s).Within budget :=
  ⟨decide_eq_true hs, hbudget⟩

theorem within_int (n : WordInt) {budget : Nat} (hbudget : 0 < budget) : (int n).Within budget :=
  ⟨rfl, hbudget⟩

theorem within_map_iff {entries : List (Msgpack × Msgpack)} {budget : Nat} :
    (map entries).Within (budget + 2) ↔ entries.length < 2 ^ 32 ∧
      ∀ e ∈ entries, e.1.Within budget ∧ e.2.Within budget := by
  have hentries : fitsEntries entries = true ∧ costEntries entries ≤ budget ↔
      ∀ e ∈ entries, e.1.Within budget ∧ e.2.Within budget := by
    induction entries with
    | nil => simp [fitsEntries, costEntries]
    | cons e rest ih =>
      rw [List.forall_mem_cons, ← ih]
      simp only [fitsEntries, costEntries, Bool.and_eq_true, Nat.max_le, Within]
      constructor
      · rintro ⟨⟨⟨hkey, hvalue⟩, hrest⟩, ⟨hkeyCost, hvalueCost⟩, hrestCost⟩
        exact ⟨⟨⟨hkey, hkeyCost⟩, hvalue, hvalueCost⟩, hrest, hrestCost⟩
      · rintro ⟨⟨⟨hkey, hkeyCost⟩, hvalue, hvalueCost⟩, hrest, hrestCost⟩
        exact ⟨⟨⟨hkey, hvalue⟩, hrest⟩, ⟨hkeyCost, hvalueCost⟩, hrestCost⟩
  rw [← hentries]
  simp only [Within, fits, cost, Bool.and_eq_true, decide_eq_true_eq, Nat.add_le_add_iff_right]
  exact and_assoc

/-! ## Fields and bodies -/

theorem readField_append {width n : Nat} (h : n < 256 ^ width) (rest : Bytes) :
    readField width (ofNatBE width n ++ rest) = .ok (n, rest) := by
  have hsplit := split?_append (ofNatBE width n) rest
  rw [length_ofNatBE] at hsplit
  rw [readField, hsplit]
  simp only [toNatBE_ofNatBE, Nat.mod_eq_of_lt h]

theorem readField_one (b : UInt8) (rest : Bytes) :
    readField 1 (b :: rest) = .ok (b.toNat, rest) := by
  simp [readField, split?, toNatBE, toNatLE]

theorem readBody_append (body rest : Bytes) :
    readBody body.length (body ++ rest) = .ok (body, rest) := by
  rw [readBody, split?_append]

/-! ## Markers -/

section

variable {n : Nat}

theorem ofByte_positive (h : n < 2 ^ 7) : Marker.ofByte (UInt8.ofNat n) = .fixInt n := by
  unfold Marker.ofByte
  rw [UInt8.toNat_ofNat', Nat.mod_eq_of_lt (by omega)]
  exact if_pos (by omega)

theorem ofByte_negative {i : Int} (hlow : -2 ^ 5 ≤ i) (hneg : i < 0) :
    Marker.ofByte (UInt8.ofNat (i + 2 ^ 8).toNat) = .fixInt i := by
  have hbyte : ((i + 2 ^ 8).toNat : Int) = i + 0x100 := by omega
  unfold Marker.ofByte
  rw [UInt8.toNat_ofNat', Nat.mod_eq_of_lt (by omega)]
  simp only
  rw [if_neg (by omega), if_neg (by omega), if_neg (by omega), if_neg (by omega),
    if_pos (by omega), hbyte, Int.add_sub_cancel]

theorem ofByte_fixMap (h : n < 2 ^ 4) : Marker.ofByte (UInt8.ofNat (0x80 + n)) = .fixMap n := by
  unfold Marker.ofByte
  rw [UInt8.toNat_ofNat', Nat.mod_eq_of_lt (by omega)]
  simp only
  rw [if_neg (by omega), if_pos (by omega), Nat.add_sub_cancel_left]

theorem ofByte_fixArray (h : n < 2 ^ 4) :
    Marker.ofByte (UInt8.ofNat (0x90 + n)) = .fixArray n := by
  unfold Marker.ofByte
  rw [UInt8.toNat_ofNat', Nat.mod_eq_of_lt (by omega)]
  simp only
  rw [if_neg (by omega), if_neg (by omega), if_pos (by omega), Nat.add_sub_cancel_left]

theorem ofByte_fixStr (h : n < 2 ^ 5) : Marker.ofByte (UInt8.ofNat (0xA0 + n)) = .fixStr n := by
  unfold Marker.ofByte
  rw [UInt8.toNat_ofNat', Nat.mod_eq_of_lt (by omega)]
  simp only
  rw [if_neg (by omega), if_neg (by omega), if_neg (by omega), if_pos (by omega),
    Nat.add_sub_cancel_left]

end

/-! ## Headers -/

/-- The reader of what an array or a map within the budget holds. -/
def inside : Nat → Bytes → Except ReadError (Msgpack × Bytes)
  | 0 => fun _ => .error .depth
  | budget + 1 => read budget

theorem read_cons (budget : Nat) (b : UInt8) (bs : Bytes) :
    read (budget + 1) (b :: bs) = readMarked (inside budget) budget bs (Marker.ofByte b) := by
  cases budget <;> rfl

theorem ofInt_val (n : WordInt) : ofInt n.val = .int n := by
  simp [ofInt, WordInt.ofInt?, n.lower, n.upper]

/-- Where a marker announces a field, the body begins behind it. -/
theorem read_field {budget width n : Nat} {b : UInt8}
    (body : Nat → Bytes → Except ReadError (Msgpack × Bytes))
    (hbody : ∀ bs, readMarked (inside budget) budget bs (Marker.ofByte b) = do
      let (n, rest) ← readField width bs
      body n rest)
    (h : n < 256 ^ width) (rest : Bytes) :
    read (budget + 1) (b :: ofNatBE width n ++ rest) = body n rest := by
  rw [List.cons_append, read_cons, hbody, readField_append h]
  rfl

theorem read_writeInt (budget : Nat) (n : WordInt) (rest : Bytes) :
    read (budget + 1) (writeInt n.val ++ rest) = .ok (.int n, rest) := by
  have hlower := n.lower
  have hupper := n.upper
  rw [← ofInt_val n]
  unfold writeInt
  by_cases hsign : 0 ≤ n.val
  · have hval : (n.val.toNat : Int) = n.val := Int.toNat_of_nonneg hsign
    simp only [hsign, ↓reduceIte]
    split
    · rename_i hsmall
      rw [List.singleton_append, read_cons, ofByte_positive hsmall, readMarked, hval]
    · rw [← hval]
      repeat' split
      all_goals exact read_field (fun n rest => .ok (ofInt n, rest)) (fun _ => rfl) (by omega) rest
  · simp only [hsign, ↓reduceIte]
    split
    · rename_i hsmall
      rw [List.singleton_append, read_cons, ofByte_negative hsmall (by omega), readMarked]
    · have hsint {width complement : Nat} {b : UInt8} (hb : Marker.ofByte b = .sint width)
          (hfield : complement < 256 ^ width) (hvalue : signed width complement = n.val) :
          read (budget + 1) (b :: ofNatBE width complement ++ rest) = .ok (ofInt n.val, rest) := by
        rw [← hvalue]
        exact read_field (fun n rest => .ok (ofInt (signed width n), rest))
          (fun _ => by rw [hb, readMarked]) hfield rest
      repeat' split
      all_goals exact hsint rfl (by omega) (by simp only [signed]; omega)

section

variable (budget : Nat) (length : UInt32) (rest : Bytes)

theorem read_strHeader :
    read (budget + 1) (strHeader length ++ rest) = readStr budget length.toNat rest := by
  have hsize := length.toNat_lt
  simp only [strHeader]
  split
  · rename_i hsmall
    rw [List.singleton_append, read_cons, ofByte_fixStr hsmall, readMarked]
  · repeat' split
    all_goals exact read_field (readStr budget) (fun _ => rfl) (by omega) rest

theorem read_binHeader :
    read (budget + 1) (binHeader length ++ rest) = readBin budget length.toNat rest := by
  have hsize := length.toNat_lt
  simp only [binHeader]
  repeat' split
  all_goals exact read_field (readBin budget) (fun _ => rfl) (by omega) rest

theorem read_arrayHeader :
    read (budget + 1) (arrayHeader length ++ rest) =
      readItems (inside budget) budget length.toNat rest := by
  have hsize := length.toNat_lt
  simp only [arrayHeader]
  split
  · rename_i hsmall
    rw [List.singleton_append, read_cons, ofByte_fixArray hsmall, readMarked]
  · repeat' split
    all_goals exact read_field (readItems (inside budget) budget) (fun _ => rfl) (by omega) rest

theorem read_mapHeader :
    read (budget + 1) (mapHeader length ++ rest) =
      readEntries (inside budget) budget length.toNat rest := by
  have hsize := length.toNat_lt
  simp only [mapHeader]
  split
  · rename_i hsmall
    rw [List.singleton_append, read_cons, ofByte_fixMap hsmall, readMarked]
  · repeat' split
    all_goals exact read_field (readEntries (inside budget) budget) (fun _ => rfl) (by omega) rest

theorem read_extHeader :
    read (budget + 1) (extHeader length ++ rest) = readExt budget length.toNat rest := by
  have hsize := length.toNat_lt
  have hfixed {b : UInt8} {n : Nat} (hb : Marker.ofByte b = .fixExt n) :
      read (budget + 1) ([b] ++ rest) = readExt budget n rest := by
    rw [List.singleton_append, read_cons, hb, readMarked]
  simp only [extHeader]
  -- Five lengths have markers of their own, all others a field.
  repeat' split
  all_goals first
    | exact read_field (readExt budget) (fun _ => rfl) (by omega) rest
    | rename_i hlength
      rw [hlength]
      exact hfixed rfl

end

/-! ## Bodies within the budget -/

theorem readStr_utf8 {budget : Nat} (h : 2 ≤ budget) (s : String) (rest : Bytes) :
    readStr budget (utf8 s).length (utf8 s ++ rest) = .ok (.str s, rest) := by
  have hbody : ofStrBytes (utf8 s) = .str s := by rw [ofStrBytes, ofUtf8?_utf8]
  rw [readStr, if_neg (by omega), readBody_append, ← hbody]
  rfl

theorem readBin_append {budget : Nat} (h : 1 ≤ budget) (bytes rest : Bytes) :
    readBin budget bytes.length (bytes ++ rest) = .ok (.bin bytes, rest) := by
  rw [readBin, if_neg (by omega), readBody_append]
  rfl

theorem readExt_append {budget : Nat} (h : 2 ≤ budget) (type : Int8) (bytes rest : Bytes) :
    readExt budget bytes.length (type.toUInt8 :: bytes ++ rest) = .ok (.ext type bytes, rest) := by
  rw [readExt, if_neg (by omega), List.cons_append, readField_one]
  change (if budget < 2 then _ else _) = _
  rw [if_neg (by omega), readBody_append, UInt8.ofNat_toNat]
  rfl

theorem readItems_of_readMany {budget length : Nat} {items : List Msgpack} {bs rest : Bytes}
    (h : readMany (read budget) length bs = .ok (items, rest)) :
    readItems (inside (budget + 1)) (budget + 1) length bs = .ok (.array items, rest) := by
  rw [readItems, if_neg (by omega), inside, h]
  rfl

theorem readEntries_of_readMany {budget length : Nat} {entries : List (Msgpack × Msgpack)}
    {bs rest : Bytes} (h : readMany (readEntry (read budget)) length bs = .ok (entries, rest)) :
    readEntries (inside (budget + 1)) (budget + 1) length bs = .ok (.map entries, rest) := by
  rw [readEntries, if_neg (by omega), inside, h]
  rfl

theorem readMany_cons {α : Type} {read : Bytes → Except ReadError (α × Bytes)} {x : α}
    {xs : List α} {bs behind rest : Bytes} {count : Nat} (hfirst : read bs = .ok (x, behind))
    (hrest : readMany read count behind = .ok (xs, rest)) :
    readMany read (count + 1) bs = .ok (x :: xs, rest) := by
  rw [readMany, hfirst]
  change (readMany read count behind >>= _) = _
  rw [hrest]
  rfl

theorem readMany_cons_error {α : Type} {read : Bytes → Except ReadError (α × Bytes)} {x : α}
    {bs behind : Bytes} {count : Nat} {e : ReadError} (hfirst : read bs = .ok (x, behind))
    (hrest : readMany read count behind = .error e) :
    readMany read (count + 1) bs = .error e := by
  rw [readMany, hfirst]
  change (readMany read count behind >>= _) = _
  rw [hrest]
  rfl

theorem readMany_error {α : Type} {read : Bytes → Except ReadError (α × Bytes)} {bs : Bytes}
    {e : ReadError} (hfirst : read bs = .error e) (count : Nat) :
    readMany read (count + 1) bs = .error e := by
  rw [readMany, hfirst]
  rfl

theorem readEntry_of_read {read : Bytes → Except ReadError (Msgpack × Bytes)}
    {key value : Msgpack} {bs behind rest : Bytes} (hkey : read bs = .ok (key, behind))
    (hvalue : read behind = .ok (value, rest)) :
    readEntry read bs = .ok ((key, value), rest) := by
  rw [readEntry, hkey]
  change (read behind >>= _) = _
  rw [hvalue]
  rfl

/-! ## The round trip -/

mutual

/-- A written value is read back, and what follows it is left over. -/
theorem read_write (v : Msgpack) {budget : Nat} (hfits : v.fits = true) (hcost : v.cost ≤ budget)
    (rest : Bytes) : read budget (v.write ++ rest) = .ok (v, rest) := by
  have hpos := v.cost_pos
  obtain ⟨budget, rfl⟩ : ∃ more, budget = more + 1 := ⟨budget - 1, by omega⟩
  cases v with
  | nil => exact read_cons budget 0xC0 rest
  | bool b => cases b <;> exact read_cons budget _ rest
  | int n => exact read_writeInt budget n rest
  | float32 x =>
    rw [write, read_field (fun n rest => .ok (.float32 ⟨UInt32.ofNat n⟩, rest)) (fun _ => rfl)
      x.bits.toNat_lt, UInt32.ofNat_toNat]
  | float64 x =>
    rw [write, read_field (fun n rest => .ok (.float64 ⟨UInt64.ofNat n⟩, rest)) (fun _ => rfl)
      x.bits.toNat_lt, UInt64.ofNat_toNat]
  | str s =>
    simp only [fits, cost, decide_eq_true_eq] at hfits hcost
    rw [write, List.append_assoc, read_strHeader, UInt32.toNat_ofNat_of_lt' hfits,
      readStr_utf8 (by omega)]
  | badStr bytes => cases hfits
  | bin bytes =>
    simp only [fits, cost, decide_eq_true_eq] at hfits hcost
    rw [write, List.append_assoc, read_binHeader, UInt32.toNat_ofNat_of_lt' hfits,
      readBin_append (by omega)]
  | array items =>
    simp only [fits, cost, Bool.and_eq_true, decide_eq_true_eq] at hfits hcost
    obtain ⟨inner, rfl⟩ : ∃ inner, budget = inner + 1 := ⟨budget - 1, by omega⟩
    rw [write, List.append_assoc, read_arrayHeader, UInt32.toNat_ofNat_of_lt' hfits.1]
    exact readItems_of_readMany (readMany_writeItems items hfits.2 (by omega) rest)
  | map entries =>
    simp only [fits, cost, Bool.and_eq_true, decide_eq_true_eq] at hfits hcost
    obtain ⟨inner, rfl⟩ : ∃ inner, budget = inner + 1 := ⟨budget - 1, by omega⟩
    rw [write, List.append_assoc, read_mapHeader, UInt32.toNat_ofNat_of_lt' hfits.1]
    exact readEntries_of_readMany (readMany_writeEntries entries hfits.2 (by omega) rest)
  | ext type bytes =>
    simp only [fits, cost, decide_eq_true_eq] at hfits hcost
    rw [write, List.append_assoc, read_extHeader, UInt32.toNat_ofNat_of_lt' hfits,
      readExt_append (by omega)]

theorem readMany_writeItems (items : List Msgpack) {budget : Nat} (hfits : fitsItems items = true)
    (hcost : costItems items ≤ budget) (rest : Bytes) :
    readMany (read budget) items.length (writeItems items ++ rest) = .ok (items, rest) := by
  cases items with
  | nil => rfl
  | cons item others =>
    simp only [fitsItems, costItems, Bool.and_eq_true] at hfits hcost
    rw [writeItems, List.append_assoc]
    exact readMany_cons (read_write item hfits.1 (by omega) _)
      (readMany_writeItems others hfits.2 (by omega) rest)

theorem readMany_writeEntries (entries : List (Msgpack × Msgpack)) {budget : Nat}
    (hfits : fitsEntries entries = true) (hcost : costEntries entries ≤ budget) (rest : Bytes) :
    readMany (readEntry (read budget)) entries.length (writeEntries entries ++ rest) =
      .ok (entries, rest) := by
  match entries with
  | [] => rfl
  | (key, value) :: others =>
    simp only [fitsEntries, costEntries, Bool.and_eq_true] at hfits hcost
    rw [writeEntries, List.append_assoc, List.append_assoc]
    exact readMany_cons
      (readEntry_of_read (read_write key hfits.1.1 (by omega) _)
        (read_write value hfits.1.2 (by omega) _))
      (readMany_writeEntries others hfits.2 (by omega) rest)

end

end SessionRecorder.Msgpack
