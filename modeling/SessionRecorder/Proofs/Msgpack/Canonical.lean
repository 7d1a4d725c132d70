import SessionRecorder.Proofs.Msgpack.Injective

/-!
What was read can be written and read again. A value is written as its plain form, in which strings
that are not text are binary data; and the plain form of a value that was read has its lengths in
their fields and its nesting in the budget of that reading, in whatever form the value was read.
Main statements: `write_plain` and `gives_read`.
-/

namespace SessionRecorder.Msgpack

open Bytes Text

/-! ## Values as they are written -/

mutual

/-- The value with binary data in the place of strings that are not text. -/
def plain : Msgpack → Msgpack
  | .badStr bytes => .bin bytes
  | .array items => .array (plainItems items)
  | .map entries => .map (plainEntries entries)
  | v => v

def plainItems : List Msgpack → List Msgpack
  | [] => []
  | item :: rest => item.plain :: plainItems rest

def plainEntries : List (Msgpack × Msgpack) → List (Msgpack × Msgpack)
  | [] => []
  | (key, value) :: rest => (key.plain, value.plain) :: plainEntries rest

end

theorem plainItems_eq_map (items : List Msgpack) : plainItems items = items.map plain := by
  induction items with
  | nil => rfl
  | cons item rest ih => rw [plainItems, ih, List.map_cons]

theorem plainEntries_eq_map (entries : List (Msgpack × Msgpack)) :
    plainEntries entries = entries.map fun e => (e.1.plain, e.2.plain) := by
  induction entries with
  | nil => rfl
  | cons e rest ih => rw [plainEntries, ih, List.map_cons]

mutual

/-- A value and its plain form have the same octets. -/
theorem write_plain (v : Msgpack) : v.plain.write = v.write := by
  cases v with
  | array items =>
    rw [plain, write, write, writeItems_plain items, plainItems_eq_map, List.length_map]
  | map entries =>
    rw [plain, write, write, writeEntries_plain entries, plainEntries_eq_map, List.length_map]
  | _ => rfl

theorem writeItems_plain (items : List Msgpack) :
    writeItems (plainItems items) = writeItems items := by
  cases items with
  | nil => rfl
  | cons item rest =>
    rw [plainItems, writeItems, writeItems, write_plain item, writeItems_plain rest]

theorem writeEntries_plain (entries : List (Msgpack × Msgpack)) :
    writeEntries (plainEntries entries) = writeEntries entries := by
  match entries with
  | [] => rfl
  | (key, value) :: rest =>
    rw [plainEntries, writeEntries, writeEntries, write_plain key, write_plain value,
      writeEntries_plain rest]

end

mutual

/-- Where every string is text, the plain form is the value. -/
theorem plain_of_textual (v : Msgpack) (h : v.textual = true) : v.plain = v := by
  cases v with
  | badStr bytes => cases h
  | array items => rw [plain, plainItems_of_textual items h]
  | map entries => rw [plain, plainEntries_of_textual entries h]
  | _ => rfl

theorem plainItems_of_textual (items : List Msgpack) (h : textualItems items = true) :
    plainItems items = items := by
  cases items with
  | nil => rfl
  | cons item rest =>
    simp only [textualItems, Bool.and_eq_true] at h
    rw [plainItems, plain_of_textual item h.1, plainItems_of_textual rest h.2]

theorem plainEntries_of_textual (entries : List (Msgpack × Msgpack))
    (h : textualEntries entries = true) : plainEntries entries = entries := by
  match entries with
  | [] => rfl
  | (key, value) :: rest =>
    simp only [textualEntries, Bool.and_eq_true] at h
    rw [plainEntries, plain_of_textual key h.1.1, plain_of_textual value h.1.2,
      plainEntries_of_textual rest h.2]

end

theorem within_array {items : List Msgpack} {budget : Nat} (hlength : items.length < 2 ^ 32)
    (hitems : ∀ item ∈ items, item.Within budget) : (array items).Within (budget + 2) := by
  have hall : fitsItems items = true ∧ costItems items ≤ budget := by
    clear hlength
    induction items with
    | nil => exact ⟨rfl, Nat.zero_le _⟩
    | cons item rest ih =>
      obtain ⟨hitem, hrest⟩ := List.forall_mem_cons.1 hitems
      obtain ⟨hfits, hcost⟩ := ih hrest
      exact ⟨by rw [fitsItems, hitem.1, hfits]; rfl, Nat.max_le.2 ⟨hitem.2, hcost⟩⟩
  simp only [Within, fits, cost, Bool.and_eq_true, decide_eq_true_eq]
  exact ⟨⟨hlength, hall.1⟩, by omega⟩

/-- Whether the plain form of a value is read back within a budget once it is written. -/
def PlainWithin (budget : Nat) (v : Msgpack) : Prop := v.plain.Within budget

/-! ## What readers give -/

section

variable {α β : Type}

/-- Whatever the reader gives has the property. -/
def Gives (P : α → Prop) (read : Bytes → Except ReadError (α × Bytes)) : Prop :=
  ∀ bs x rest, read bs = .ok (x, rest) → P x

variable {P : α → Prop} {Q : β → Prop}

theorem gives_ok {x : α} (h : P x) : Gives P fun bs => .ok (x, bs) := by
  rintro bs _ _ ⟨⟩
  exact h

theorem gives_error (e : ReadError) : Gives P fun _ => .error e := by
  intro bs x rest h
  cases h

/-- One reader after another, which knows what the first has given. -/
theorem Gives.bind {first : Bytes → Except ReadError (α × Bytes)}
    {next : α → Bytes → Except ReadError (β × Bytes)} (hfirst : Gives P first)
    (hnext : ∀ x, P x → Gives Q (next x)) :
    Gives Q (fun bs => do
      let (x, rest) ← first bs
      next x rest) := by
  intro bs y rest h
  rcases hread : first bs with e | ⟨x, behind⟩
  · simp only [hread] at h
    cases h
  · simp only [hread] at h
    exact hnext x (hfirst bs x behind hread) behind y rest h

/-- A reader behind a check that it does not fail. -/
theorem Gives.guarded {read : Bytes → Except ReadError (α × Bytes)} (p : Prop) [Decidable p]
    (e : ReadError) (h : ¬ p → Gives P read) :
    Gives P fun bs => if p then .error e else read bs := by
  by_cases hp : p
  · simp only [hp, ↓reduceIte]
    exact gives_error e
  · simp only [hp, ↓reduceIte]
    exact h hp

theorem gives_readField (width : Nat) : Gives (· < 256 ^ width) (readField width) := by
  intro bs n rest h
  unfold readField at h
  cases hsplit : split? width bs with
  | none =>
    rw [hsplit] at h
    cases h
  | some taken =>
    rw [hsplit] at h
    cases h
    obtain ⟨-, hlength⟩ := split?_eq_some_iff.1 hsplit
    have hlt := toNatLE_lt taken.1.reverse
    rwa [List.length_reverse, hlength] at hlt

theorem gives_readBody (length : Nat) : Gives (·.length = length) (readBody length) := by
  intro bs body rest h
  unfold readBody at h
  cases hsplit : split? length bs with
  | none =>
    rw [hsplit] at h
    cases h
  | some taken =>
    rw [hsplit] at h
    cases h
    exact (split?_eq_some_iff.1 hsplit).2

theorem gives_readMany {read : Bytes → Except ReadError (α × Bytes)} (h : Gives P read)
    (count : Nat) : Gives (fun xs => xs.length = count ∧ ∀ x ∈ xs, P x) (readMany read count) := by
  induction count with
  | zero => exact gives_ok ⟨rfl, nofun⟩
  | succ count ih =>
    refine h.bind fun x hx => ih.bind fun xs hxs => gives_ok ⟨?_, ?_⟩
    · rw [List.length_cons, hxs.1]
    · exact List.forall_mem_cons.2 ⟨hx, hxs.2⟩

end

/-! ## Bodies -/

section

variable {budget length : Nat} (hlength : length < 2 ^ 32)

include hlength

/-- A string is text or written as binary data. -/
theorem gives_readStr : Gives (PlainWithin (budget + 1)) (readStr budget length) := by
  have hstring (hbudget : ¬ budget < 2) {bytes : Bytes} (h : bytes.length = length) :
      PlainWithin (budget + 1) (ofStrBytes bytes) := by
    unfold ofStrBytes
    split
    · rename_i s hs
      refine within_str ?_ (by omega)
      rwa [utf8_of_ofUtf8? hs, h]
    · exact ⟨decide_eq_true (h ▸ hlength), by simp only [plain, cost]; omega⟩
  have hbody (hbudget : ¬ budget < 2) :=
    (gives_readBody length).bind fun bytes h => gives_ok (hstring hbudget h)
  exact Gives.guarded _ _ hbody

theorem gives_readBin : Gives (PlainWithin (budget + 1)) (readBin budget length) := by
  have hbytes (hbudget : ¬ budget < 1) {bytes : Bytes} (h : bytes.length = length) :
      PlainWithin (budget + 1) (bin bytes) :=
    ⟨decide_eq_true (h ▸ hlength), by simp only [plain, cost]; omega⟩
  have hbody (hbudget : ¬ budget < 1) :=
    (gives_readBody length).bind fun bytes h => gives_ok (hbytes hbudget h)
  exact Gives.guarded _ _ hbody

theorem gives_readExt : Gives (PlainWithin (budget + 1)) (readExt budget length) := by
  have hbytes (type : Nat) (hbudget : ¬ budget < 2) {bytes : Bytes} (h : bytes.length = length) :
      PlainWithin (budget + 1) (ext (UInt8.ofNat type).toInt8 bytes) :=
    ⟨decide_eq_true (h ▸ hlength), by simp only [plain, cost]; omega⟩
  have hbody (type : Nat) (hbudget : ¬ budget < 2) :=
    (gives_readBody length).bind fun bytes h => gives_ok (hbytes type hbudget h)
  have htype := (gives_readField 1).bind fun type _ => Gives.guarded _ .depth (hbody type)
  exact Gives.guarded _ _ fun _ => htype

variable {inner : Bytes → Except ReadError (Msgpack × Bytes)}
  (hinner : ∀ below, budget = below + 1 → Gives (PlainWithin below) inner)

include hinner

theorem gives_readItems : Gives (PlainWithin (budget + 1)) (readItems inner budget length) := by
  refine Gives.guarded _ _ fun hbudget => ?_
  obtain ⟨below, rfl⟩ : ∃ below, budget = below + 1 := ⟨budget - 1, by omega⟩
  have harray {items : List Msgpack}
      (h : items.length = length ∧ ∀ item ∈ items, PlainWithin below item) :
      PlainWithin (below + 1 + 1) (array items) := by
    rw [PlainWithin, plain, plainItems_eq_map]
    exact within_array (by rwa [List.length_map, h.1]) (List.forall_mem_map.2 h.2)
  have hbody := (gives_readMany (hinner below rfl) length).bind fun items h => gives_ok (harray h)
  exact hbody

theorem gives_readEntries : Gives (PlainWithin (budget + 1)) (readEntries inner budget length) := by
  refine Gives.guarded _ _ fun hbudget => ?_
  obtain ⟨below, rfl⟩ : ∃ below, budget = below + 1 := ⟨budget - 1, by omega⟩
  have hmap {entries : List (Msgpack × Msgpack)} (h : entries.length = length ∧
      ∀ e ∈ entries, PlainWithin below e.1 ∧ PlainWithin below e.2) :
      PlainWithin (below + 1 + 1) (map entries) := by
    rw [PlainWithin, plain, plainEntries_eq_map]
    exact within_map_iff.2 ⟨by rwa [List.length_map, h.1], List.forall_mem_map.2 h.2⟩
  have hentry : Gives (fun e => PlainWithin below e.1 ∧ PlainWithin below e.2)
      (readEntry inner) := by
    have hpair := (hinner below rfl).bind fun key hkey =>
      (hinner below rfl).bind fun value hvalue =>
        gives_ok (P := fun e => PlainWithin below e.1 ∧ PlainWithin below e.2) (x := (key, value))
          ⟨hkey, hvalue⟩
    exact hpair
  have hbody := (gives_readMany hentry length).bind fun entries h => gives_ok (hmap h)
  exact hbody

end

/-! ## Values -/

/-- Whether each length behind the marker is below 2 ^ 32. -/
def Marker.bounded : Marker → Bool
  | .fixStr length | .fixArray length | .fixMap length | .fixExt length => length < 2 ^ 32
  | .str width | .bin width | .array width | .map width | .ext width => 256 ^ width ≤ 2 ^ 32
  | _ => true

theorem Marker.bounded_ofByte (b : UInt8) : (Marker.ofByte b).bounded = true := by
  have hall : ∀ n : Fin 256, (Marker.ofByte (UInt8.ofNat n)).bounded = true := by decide +kernel
  have hb := hall ⟨b.toNat, b.toNat_lt⟩
  rwa [UInt8.ofNat_toNat] at hb

theorem gives_readMarked {inner : Bytes → Except ReadError (Msgpack × Bytes)} {budget : Nat}
    (hinner : ∀ below, budget = below + 1 → Gives (PlainWithin below) inner)
    {m : Marker} (hm : m.bounded = true) :
    Gives (PlainWithin (budget + 1)) fun bs => readMarked inner budget bs m := by
  have hsmall {v : Msgpack} (hplain : v.plain = v) (hfits : v.fits = true) (hcost : v.cost = 1) :
      PlainWithin (budget + 1) v := by
    rw [PlainWithin, hplain]
    exact ⟨hfits, by omega⟩
  have hfield {width : Nat} {body : Nat → Bytes → Except ReadError (Msgpack × Bytes)}
      (hwidth : decide (256 ^ width ≤ 2 ^ 32) = true)
      (hbody : ∀ length : Nat, length < 2 ^ 32 → Gives (PlainWithin (budget + 1)) (body length)) :=
    (gives_readField width).bind fun length h =>
      hbody length (Nat.lt_of_lt_of_le h (of_decide_eq_true hwidth))
  have hnumber (width : Nat) (value : Nat → Msgpack)
      (hvalue : ∀ n, PlainWithin (budget + 1) (value n)) :=
    (gives_readField width).bind fun n _ => gives_ok (hvalue n)
  have hint (n : Int) : PlainWithin (budget + 1) (ofInt n) := hsmall rfl rfl rfl
  cases m with
  | nil => exact gives_ok (hsmall rfl rfl rfl)
  | bool b => exact gives_ok (hsmall rfl rfl rfl)
  | fixInt n => exact gives_ok (hint n)
  | uint width => exact hnumber width (fun n => ofInt n) fun n => hint n
  | sint width => exact hnumber width (fun n => ofInt (signed width n)) fun n => hint _
  | float32 => exact hnumber 4 (fun n => .float32 ⟨.ofNat n⟩) fun n => hsmall rfl rfl rfl
  | float64 => exact hnumber 8 (fun n => .float64 ⟨.ofNat n⟩) fun n => hsmall rfl rfl rfl
  | fixStr length => exact gives_readStr (of_decide_eq_true hm)
  | str width => exact hfield hm fun _ => gives_readStr
  | bin width => exact hfield hm fun _ => gives_readBin
  | fixArray length => exact gives_readItems (of_decide_eq_true hm) hinner
  | array width => exact hfield hm fun _ h => gives_readItems h hinner
  | fixMap length => exact gives_readEntries (of_decide_eq_true hm) hinner
  | map width => exact hfield hm fun _ h => gives_readEntries h hinner
  | fixExt length => exact gives_readExt (of_decide_eq_true hm)
  | ext width => exact hfield hm fun _ => gives_readExt

/-- What is read within a budget is, in its plain form, read back within it. -/
theorem gives_read : ∀ budget, Gives (PlainWithin budget) (read budget)
  | 0, _, _, _, h => by cases h
  | _ + 1, [], _, _, h => by cases h
  | 1, b :: bs, v, rest, h =>
    gives_readMarked (by rintro below ⟨⟩) (Marker.bounded_ofByte b) bs v rest h
  | inside + 2, b :: bs, v, rest, h => by
    refine gives_readMarked (fun below hbelow => ?_) (Marker.bounded_ofByte b) bs v rest h
    obtain rfl : inside = below := Nat.succ.inj hbelow
    exact gives_read inside

end SessionRecorder.Msgpack
