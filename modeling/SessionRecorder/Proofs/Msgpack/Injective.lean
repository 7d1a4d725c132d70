import Mathlib.Tactic.SplitIfs
import SessionRecorder.Msgpack.Json
import SessionRecorder.Payload
import SessionRecorder.Proofs.Msgpack.Written

/-!
Which values have the same octets. Octets that a request can hold are those of one value alone,
as long as its strings are text: their length bounds every length inside, and so they are read
back (`write_injective`). JSON values have different images (`ofJson_injective`).
-/

namespace SessionRecorder.Msgpack

mutual

/-- Whether every string is text. -/
def textual : Msgpack → Bool
  | .badStr _ => false
  | .array items => textualItems items
  | .map entries => textualEntries entries
  | _ => true

def textualItems : List Msgpack → Bool
  | [] => true
  | item :: rest => item.textual && textualItems rest

def textualEntries : List (Msgpack × Msgpack) → Bool
  | [] => true
  | (key, value) :: rest => key.textual && value.textual && textualEntries rest

end

theorem writeInt_ne_nil (n : Int) : writeInt n ≠ [] := by
  unfold writeInt
  simp only
  split_ifs <;> exact List.cons_ne_nil _ _

theorem strHeader_ne_nil (length : UInt32) : strHeader length ≠ [] := by
  simp only [strHeader]
  split_ifs <;> exact List.cons_ne_nil _ _

theorem binHeader_ne_nil (length : UInt32) : binHeader length ≠ [] := by
  simp only [binHeader]
  split_ifs <;> exact List.cons_ne_nil _ _

theorem arrayHeader_ne_nil (length : UInt32) : arrayHeader length ≠ [] := by
  simp only [arrayHeader]
  split_ifs <;> exact List.cons_ne_nil _ _

theorem mapHeader_ne_nil (length : UInt32) : mapHeader length ≠ [] := by
  simp only [mapHeader]
  split_ifs <;> exact List.cons_ne_nil _ _

theorem write_ne_nil (v : Msgpack) : v.write ≠ [] := by
  cases v with
  | nil => exact List.cons_ne_nil _ _
  | bool b => cases b <;> exact List.cons_ne_nil _ _
  | int n => exact writeInt_ne_nil n.val
  | float32 x | float64 x => exact List.cons_ne_nil _ _
  | str s => exact List.append_ne_nil_of_left_ne_nil (strHeader_ne_nil _) _
  | badStr bytes | bin bytes => exact List.append_ne_nil_of_left_ne_nil (binHeader_ne_nil _) _
  | array items => exact List.append_ne_nil_of_left_ne_nil (arrayHeader_ne_nil _) _
  | map entries => exact List.append_ne_nil_of_left_ne_nil (mapHeader_ne_nil _) _
  | ext type bytes => exact List.append_ne_nil_of_right_ne_nil _ (List.cons_ne_nil _ _)

mutual

/-- The length of the octets bounds every length inside. -/
theorem fits_of_length (v : Msgpack) (htext : v.textual = true)
    (hlength : v.write.length < 2 ^ 32) : v.fits = true := by
  cases v with
  | nil | bool | int | float32 | float64 => rfl
  | badStr bytes => cases htext
  | str s =>
    rw [write, List.length_append] at hlength
    simp only [fits, decide_eq_true_eq]
    omega
  | bin bytes =>
    rw [write, List.length_append] at hlength
    simp only [fits, decide_eq_true_eq]
    omega
  | array items =>
    rw [write, List.length_append] at hlength
    obtain ⟨hcount, hitems⟩ := fitsItems_of_length items htext (by omega)
    simp only [fits, Bool.and_eq_true, decide_eq_true_eq]
    exact ⟨by omega, hitems⟩
  | map entries =>
    rw [write, List.length_append] at hlength
    obtain ⟨hcount, hentries⟩ := fitsEntries_of_length entries htext (by omega)
    simp only [fits, Bool.and_eq_true, decide_eq_true_eq]
    exact ⟨by omega, hentries⟩
  | ext type bytes =>
    rw [write, List.length_append, List.length_cons] at hlength
    simp only [fits, decide_eq_true_eq]
    omega

theorem fitsItems_of_length (items : List Msgpack) (htext : textualItems items = true)
    (hlength : (writeItems items).length < 2 ^ 32) :
    items.length ≤ (writeItems items).length ∧ fitsItems items = true := by
  cases items with
  | nil => exact ⟨Nat.le_refl _, rfl⟩
  | cons item rest =>
    simp only [textualItems, Bool.and_eq_true] at htext
    simp only [writeItems, List.length_append] at hlength ⊢
    have hpos := List.length_pos_iff.2 item.write_ne_nil
    have hitem := fits_of_length item htext.1 (by omega)
    obtain ⟨hcount, hrest⟩ := fitsItems_of_length rest htext.2 (by omega)
    refine ⟨by rw [List.length_cons]; omega, ?_⟩
    rw [fitsItems, hitem, hrest]
    rfl

theorem fitsEntries_of_length (entries : List (Msgpack × Msgpack))
    (htext : textualEntries entries = true) (hlength : (writeEntries entries).length < 2 ^ 32) :
    entries.length ≤ (writeEntries entries).length ∧ fitsEntries entries = true := by
  match entries with
  | [] => exact ⟨Nat.le_refl _, rfl⟩
  | (key, value) :: rest =>
    simp only [textualEntries, Bool.and_eq_true] at htext
    simp only [writeEntries, List.length_append] at hlength ⊢
    have hpos := List.length_pos_iff.2 key.write_ne_nil
    have hkey := fits_of_length key htext.1.1 (by omega)
    have hvalue := fits_of_length value htext.1.2 (by omega)
    obtain ⟨hcount, hrest⟩ := fitsEntries_of_length rest htext.2 (by omega)
    refine ⟨by rw [List.length_cons]; omega, ?_⟩
    rw [fitsEntries, hkey, hvalue, hrest]
    rfl

end

theorem write_injective {v w : Msgpack} (hv : v.textual = true) (hw : w.textual = true)
    (hlength : v.write.length < 2 ^ 32) (h : v.write = w.write) : v = w := by
  have hread := read_write v (fits_of_length v hv hlength) (Nat.le_max_left v.cost w.cost) []
  have hother := read_write w (fits_of_length w hw (h ▸ hlength)) (Nat.le_max_right v.cost w.cost)
    []
  rw [h, hother] at hread
  exact (congrArg Prod.fst (Except.ok.inj hread)).symm

/-! ## JSON values -/

mutual

theorem textual_ofJson (data : Json) : (ofJson data).textual = true := by
  cases data with
  | array items => exact textualItems_ofJsonItems items
  | object members => exact textualEntries_ofJsonMembers members
  | _ => rfl

theorem textualItems_ofJsonItems (items : List Json) :
    textualItems (ofJsonItems items) = true := by
  cases items with
  | nil => rfl
  | cons item rest =>
    rw [ofJsonItems, textualItems, textual_ofJson item, textualItems_ofJsonItems rest]
    rfl

theorem textualEntries_ofJsonMembers (members : List (String × Json)) :
    textualEntries (ofJsonMembers members) = true := by
  match members with
  | [] => rfl
  | (key, value) :: rest =>
    rw [ofJsonMembers, textualEntries, textual_ofJson value, textualEntries_ofJsonMembers rest]
    rfl

end

mutual

theorem ofJson_injective {a b : Json} (h : ofJson a = ofJson b) : a = b := by
  cases a with
  | array items =>
    cases b with
    | array others => exact congrArg _ (ofJsonItems_injective (Msgpack.array.inj h))
    | _ => cases h
  | object members =>
    cases b with
    | object others => exact congrArg _ (ofJsonMembers_injective (Msgpack.map.inj h))
    | _ => cases h
  | _ =>
    cases b <;> cases h
    all_goals rfl

theorem ofJsonItems_injective {xs ys : List Json} (h : ofJsonItems xs = ofJsonItems ys) :
    xs = ys := by
  cases xs with
  | nil =>
    cases ys with
    | nil => rfl
    | cons y rest => cases h
  | cons x rest =>
    cases ys with
    | nil => cases h
    | cons y rest' =>
      obtain ⟨hhead, htail⟩ := List.cons.inj h
      rw [ofJson_injective hhead, ofJsonItems_injective htail]

theorem ofJsonMembers_injective {xs ys : List (String × Json)}
    (h : ofJsonMembers xs = ofJsonMembers ys) : xs = ys := by
  match xs, ys with
  | [], [] => rfl
  | [], _ :: _ => cases h
  | _ :: _, [] => cases h
  | (key, value) :: rest, (key', value') :: rest' =>
    obtain ⟨hhead, htail⟩ := List.cons.inj h
    obtain ⟨hkey, hvalue⟩ := Prod.mk.inj hhead
    rw [Msgpack.str.inj hkey, ofJson_injective hvalue, ofJsonMembers_injective htail]

end

end SessionRecorder.Msgpack
