import SessionRecorder.Lineage
import SessionRecorder.Proofs.Separators

/-!
Which agent a session id names. A UUID is written in four forms, and they are what the test for
UUIDs accepts and what can be read as one. They consist of digits, hyphens, braces and the letters
of a scheme: none holds an underscore. So the test takes no name away, and the agent is what stands
behind the last underscore, if anything does. Main statement: `agent_named_iff`.
-/

namespace SessionRecorder

namespace Uuid

variable {cs : List Char}

/-! ## The forms of a UUID -/

/-- A run of `n` hexadecimal digits of either case. -/
structure Digits (n : Nat) (cs : List Char) : Prop where
  length : cs.length = n
  hex : ∀ c ∈ cs, (Bytes.hexValue? c).isSome

/-- Groups of 8, 4, 4, 4 and 12 digits with hyphens between them. -/
def Hyphenated (cs : List Char) : Prop :=
  ∃ a b c d e, cs = a ++ '-' :: (b ++ '-' :: (c ++ '-' :: (d ++ '-' :: e))) ∧
    Digits 8 a ∧ Digits 4 b ∧ Digits 4 c ∧ Digits 4 d ∧ Digits 12 e

/-- The four forms in which a UUID is written. -/
inductive Written : List Char → Prop
  | simple {text : List Char} (h : Digits 32 text) : Written text
  | hyphenated {text : List Char} (h : Hyphenated text) : Written text
  | braced {text : List Char} (h : Hyphenated text) : Written ('\x7b' :: (text ++ ['\x7d']))
  | urn {text : List Char} (h : Hyphenated text) : Written ("urn:uuid:".toList ++ text)

theorem isDigit_or_iff (c : Char) :
    (c.isDigit || ('a' ≤ c && c ≤ 'f') || ('A' ≤ c && c ≤ 'F')) = true ↔
      (Bytes.hexValue? c).isSome := by
  have hle (a b : Char) : a ≤ b ↔ a.toNat ≤ b.toNat := by
    rw [Char.le_def, UInt32.le_iff_toNat_le]
    rfl
  have hdigit : c.isDigit = true ↔ 48 ≤ c.toNat ∧ c.toNat ≤ 57 := by
    simp only [Char.isDigit, Bool.and_eq_true, decide_eq_true_eq, ge_iff_le,
      UInt32.le_iff_toNat_le]
    rfl
  simp only [Bool.or_eq_true, Bool.and_eq_true, decide_eq_true_eq, hle, hdigit, Bytes.hexValue?]
  split
  · simp [*]
  · split
    · simp [*]
    · split <;> simp [*]

theorem allHex_iff : allHex cs = true ↔ ∀ c ∈ cs, (Bytes.hexValue? c).isSome := by
  simp only [allHex, List.all_eq_true, isDigit_or_iff]

theorem isSimple_iff : isSimple cs = true ↔ Digits 32 cs := by
  rw [isSimple, Bool.and_eq_true, beq_iff_eq, allHex_iff]
  exact ⟨fun ⟨hlength, hhex⟩ => ⟨hlength, hhex⟩, fun h => ⟨h.length, h.hex⟩⟩

/-- A hyphen `n` characters behind a place cuts the rest of a text there. -/
theorem drop_eq_of_hyphen {m n : Nat} (h : cs[m + n]? = some '-') :
    cs.drop m = (cs.drop m).take n ++ '-' :: cs.drop (m + n + 1) := by
  obtain ⟨hinside, hget⟩ := List.getElem?_eq_some_iff.1 h
  rw [← hget, ← List.drop_eq_getElem_cons hinside, ← List.drop_drop, List.take_append_drop]

/-- The digits at the places of a group, where the text is long enough. -/
theorem digits_take_drop {m n : Nat} (hlength : m + n ≤ cs.length)
    (hhex : allHex ((cs.drop m).take n) = true) : Digits n ((cs.drop m).take n) where
  length := by
    rw [List.length_take, List.length_drop]
    omega
  hex := allHex_iff.1 hhex

/-- What the checks of a group find where digits and a hyphen stand. -/
theorem Digits.places {m n : Nat} {group rest : List Char} (h : Digits n group)
    (hcs : cs.drop m = group ++ '-' :: rest) :
    cs[m + n]? = some '-' ∧ allHex ((cs.drop m).take n) = true ∧ cs.drop (m + n + 1) = rest := by
  obtain rfl := h.length
  refine ⟨?_, ?_, ?_⟩
  · rw [← List.getElem?_drop, hcs]
    simp
  · rw [hcs, List.take_left]
    exact allHex_iff.2 h.hex
  · rw [Nat.add_assoc, ← List.drop_drop, hcs, ← List.drop_drop, List.drop_left]
    rfl

theorem isHyphenated_iff : isHyphenated cs = true ↔ Hyphenated cs := by
  constructor
  · intro h
    simp only [isHyphenated, Bool.and_eq_true, beq_iff_eq, List.all_cons, List.all_nil,
      Bool.and_true] at h
    obtain ⟨⟨⟨⟨⟨⟨hlength, h8, h13, h18, h23⟩, ha⟩, hb⟩, hc⟩, hd⟩, he⟩ := h
    -- Each hyphen cuts one group off what the hyphen before it has left.
    have hfirst : cs = cs.take 8 ++ '-' :: cs.drop 9 := drop_eq_of_hyphen (m := 0) h8
    have hsecond : cs.drop 9 = (cs.drop 9).take 4 ++ '-' :: cs.drop 14 := drop_eq_of_hyphen h13
    have hthird : cs.drop 14 = (cs.drop 14).take 4 ++ '-' :: cs.drop 19 := drop_eq_of_hyphen h18
    have hfourth : cs.drop 19 = (cs.drop 19).take 4 ++ '-' :: cs.drop 24 := drop_eq_of_hyphen h23
    refine ⟨cs.take 8, (cs.drop 9).take 4, (cs.drop 14).take 4, (cs.drop 19).take 4, cs.drop 24,
      ?_, digits_take_drop (m := 0) (by omega) ha, digits_take_drop (by omega) hb,
      digits_take_drop (by omega) hc, digits_take_drop (by omega) hd, ?_, allHex_iff.1 he⟩
    · rw [← hfourth, ← hthird, ← hsecond, ← hfirst]
    · rw [List.length_drop]
      omega
  · rintro ⟨a, b, c, d, e, htext, ha, hb, hc, hd, he⟩
    obtain ⟨h8, hfirst, h9⟩ := ha.places (m := 0) htext
    obtain ⟨h13, hsecond, h14⟩ := hb.places h9
    obtain ⟨h18, hthird, h19⟩ := hc.places h14
    obtain ⟨h23, hfourth, h24⟩ := hd.places h19
    have hlength : cs.length = 36 := by
      rw [htext]
      simp [ha.length, hb.length, hc.length, hd.length, he.length]
    simp only [isHyphenated, Bool.and_eq_true, beq_iff_eq, List.all_cons, List.all_nil,
      Bool.and_true]
    exact ⟨⟨⟨⟨⟨⟨hlength, h8, h13, h18, h23⟩, hfirst⟩, hsecond⟩, hthird⟩, hfourth⟩,
      h24 ▸ allHex_iff.2 he.hex⟩

theorem accepts_iff : accepts cs = true ↔ Written cs := by
  constructor
  · intro h
    unfold accepts at h
    rw [Bool.or_eq_true, Bool.or_eq_true] at h
    rcases h with (h | h) | h
    · exact .simple (isSimple_iff.1 h)
    · exact .hyphenated (isHyphenated_iff.1 h)
    · split at h
      · obtain ⟨hlast, hbody⟩ := Bool.and_eq_true_iff.1 h
        obtain ⟨body, rfl⟩ := List.getLast?_eq_some_iff.1 (beq_iff_eq.1 hlast)
        rw [List.dropLast_concat] at hbody
        exact .braced (isHyphenated_iff.1 hbody)
      · exact .urn (isHyphenated_iff.1 h)
      · cases h
  · intro h
    unfold accepts
    rw [Bool.or_eq_true, Bool.or_eq_true]
    cases h with
    | simple h => exact .inl (.inl (isSimple_iff.2 h))
    | hyphenated h => exact .inl (.inr (isHyphenated_iff.2 h))
    | braced h => exact .inr (by simp [isHyphenated_iff.2 h])
    | urn h => exact .inr (isHyphenated_iff.2 h)

/-! ## What the forms hold -/

theorem Digits.notMem {n : Nat} {x : Char} (h : Digits n cs) (hx : Bytes.hexValue? x = none) :
    x ∉ cs := fun hmem => by
  have hsome := h.hex x hmem
  rw [hx] at hsome
  cases hsome

theorem Hyphenated.notMem {x : Char} (h : Hyphenated cs) (hx : Bytes.hexValue? x = none)
    (hhyphen : x ≠ '-') : x ∉ cs := by
  obtain ⟨a, b, c, d, e, rfl, ha, hb, hc, hd, he⟩ := h
  simp [ha.notMem hx, hb.notMem hx, hc.notMem hx, hd.notMem hx, he.notMem hx, hhyphen]

theorem Written.underscore_notMem (h : Written cs) : '_' ∉ cs := by
  cases h with
  | simple h => exact h.notMem rfl
  | hyphenated h => exact h.notMem rfl (by decide)
  | braced h => simp [h.notMem (x := '_') rfl (by decide)]
  | urn h => simp [h.notMem (x := '_') rfl (by decide)]

/-! ## Each form is read -/

/-- The digits in a text. -/
def digitsOf (cs : List Char) : List Char := cs.filter (Bytes.hexValue? · |>.isSome)

/-- A text without what names the scheme of a URN. -/
def withoutScheme (cs : List Char) : List Char :=
  if "urn:uuid:".toList.isPrefixOf cs then cs.drop 9 else cs

theorem Digits.digitsOf_eq {n : Nat} (h : Digits n cs) : digitsOf cs = cs :=
  List.filter_eq_self.2 h.hex

theorem Hyphenated.digits (h : Hyphenated cs) : Digits 32 (digitsOf cs) where
  length := by
    obtain ⟨a, b, c, d, e, rfl, ha, hb, hc, hd, he⟩ := h
    have hdigits : digitsOf (a ++ '-' :: (b ++ '-' :: (c ++ '-' :: (d ++ '-' :: e)))) =
        digitsOf a ++ (digitsOf b ++ (digitsOf c ++ (digitsOf d ++ digitsOf e))) := by
      have hhyphen : Bytes.hexValue? '-' = none := rfl
      simp [digitsOf, hhyphen]
    rw [hdigits, ha.digitsOf_eq, hb.digitsOf_eq, hc.digitsOf_eq, hd.digitsOf_eq, he.digitsOf_eq]
    simp [ha.length, hb.length, hc.length, hd.length, he.length]
  hex _ hmem := (List.mem_filter.1 hmem).2

theorem withoutScheme_eq (h : 'u' ∉ cs) : withoutScheme cs = cs := by
  refine if_neg fun hurn => h ?_
  obtain ⟨rest, rfl⟩ := List.isPrefixOf_iff_prefix.1 hurn
  exact List.mem_append_left rest (by decide)

/-- Each form holds 32 digits besides its scheme. -/
theorem Written.digits (h : Written cs) : Digits 32 (digitsOf (withoutScheme cs)) := by
  cases h with
  | simple h => rwa [withoutScheme_eq (h.notMem rfl), h.digitsOf_eq]
  | hyphenated h =>
    rw [withoutScheme_eq (h.notMem rfl (by decide))]
    exact h.digits
  | @braced text h =>
    have hbraces : digitsOf ('\x7b' :: (text ++ ['\x7d'])) = digitsOf text := by
      have hopen : Bytes.hexValue? '\x7b' = none := rfl
      have hclose : Bytes.hexValue? '\x7d' = none := rfl
      simp [digitsOf, hopen, hclose]
    rw [withoutScheme_eq (by simp [h.notMem (x := 'u') rfl (by decide)]), hbraces]
    exact h.digits
  | urn h => exact h.digits

/-- Pairs of digits are the octets that they write. -/
theorem exists_ofHexChars? {n : Nat} (h : Digits (2 * n) cs) :
    ∃ octets, Bytes.ofHexChars? cs = some octets ∧ octets.length = n := by
  induction n generalizing cs with
  | zero =>
    obtain rfl := List.eq_nil_of_length_eq_zero h.length
    exact ⟨[], rfl, rfl⟩
  | succ n ih =>
    match cs, h with
    | high :: low :: rest, h =>
      have hsize : rest.length + 1 + 1 = 2 * (n + 1) := h.length
      have hrest : Digits (2 * n) rest := ⟨by omega, fun c hc => h.hex c (by simp [hc])⟩
      obtain ⟨octets, hoctets, hlength⟩ := ih hrest
      obtain ⟨x, hx⟩ := Option.isSome_iff_exists.1 (h.hex high (by simp))
      obtain ⟨y, hy⟩ := Option.isSome_iff_exists.1 (h.hex low (by simp))
      refine ⟨UInt8.ofNat (16 * x + y) :: octets, ?_, by simp [hlength]⟩
      simp [Bytes.ofHexChars?, hx, hy, hoctets]

/-- What is read as a UUID is what has one of the forms. -/
theorem isSome_ofText?_iff {text : String} :
    (ofText? text).isSome = true ↔ Written text.toList := by
  rw [← accepts_iff]
  constructor
  · intro h
    by_cases haccepts : accepts text.toList = true
    · exact haccepts
    · rw [ofText?, if_neg haccepts] at h
      cases h
  · intro haccepts
    have hdigits : Digits (2 * 16) _ := (accepts_iff.1 haccepts).digits
    obtain ⟨octets, hoctets, hlength⟩ := exists_ofHexChars? hdigits
    simp only [digitsOf, withoutScheme] at hoctets
    simp only [ofText?, haccepts, if_true, hoctets, hlength]
    rfl

end Uuid

/-! ## The agent of a session -/

theorem afterUnderscore?_append (front : List Char) {rest : List Char} (h : '_' ∉ rest) :
    afterUnderscore? (front ++ '_' :: rest) = some rest := by
  rw [afterUnderscore?, if_pos (by simp), Text.reverse_separated,
    Text.takeWhile_ne_separator _ (fun hc => h (List.mem_reverse.1 hc)), List.reverse_reverse]

theorem afterUnderscore?_eq_none {cs : List Char} (h : '_' ∉ cs) : afterUnderscore? cs = none :=
  if_neg (by simpa using h)

theorem afterUnderscore?_eq_some_iff {cs rest : List Char} :
    afterUnderscore? cs = some rest ↔ ∃ front, cs = front ++ '_' :: rest ∧ '_' ∉ rest := by
  constructor
  · intro h
    by_cases hmem : '_' ∈ cs
    · obtain ⟨front, behind, rfl, hbehind⟩ := Text.exists_last_separator hmem
      rw [afterUnderscore?_append front hbehind] at h
      obtain rfl := Option.some.inj h
      exact ⟨front, rfl, hbehind⟩
    · rw [afterUnderscore?_eq_none hmem] at h
      cases h
  · rintro ⟨front, rfl, hrest⟩
    exact afterUnderscore?_append front hrest

/-- The test for UUIDs takes no name away, nor does the one for the empty id. -/
theorem agentOf?_eq (s : String) :
    agentOf? s = ((afterUnderscore? s.toList).filter (!·.isEmpty)).map String.ofList := by
  unfold agentOf?
  by_cases hmem : '_' ∈ s.toList
  · have hempty : s.toList.isEmpty = false := by
      cases hs : s.toList with
      | nil => exact absurd (hs ▸ hmem) List.not_mem_nil
      | cons c cs => rfl
    have huuid : Uuid.accepts s.toList = false := by
      rw [Bool.eq_false_iff]
      exact fun haccepts => (Uuid.accepts_iff.1 haccepts).underscore_notMem hmem
    simp only [hempty, huuid, Bool.or_self, Bool.false_eq_true, if_false]
    rcases afterUnderscore? s.toList with - | - | ⟨c, rest⟩ <;> rfl
  · simp only [afterUnderscore?_eq_none hmem]
    split <;> rfl

theorem agentOf?_eq_some_iff {s agent : String} :
    agentOf? s = some agent ↔
      ∃ front, s = front ++ "_" ++ agent ∧ agent ≠ "" ∧ '_' ∉ agent.toList := by
  rw [agentOf?_eq, Option.map_eq_some_iff]
  constructor
  · rintro ⟨rest, hrest, rfl⟩
    obtain ⟨hbehind, hsome⟩ := Option.filter_eq_some_iff.1 hrest
    obtain ⟨front, hs, hfree⟩ := afterUnderscore?_eq_some_iff.1 hbehind
    refine ⟨String.ofList front, ?_, ?_, by rwa [String.toList_ofList]⟩
    · rw [← String.toList_inj, hs]
      simp
    · simpa using hsome
  · rintro ⟨front, rfl, hsome, hfree⟩
    refine ⟨agent.toList, ?_, String.ofList_toList⟩
    have hs : (front ++ "_" ++ agent).toList = front.toList ++ '_' :: agent.toList := by simp
    rw [hs, afterUnderscore?_append _ hfree]
    exact Option.filter_eq_some_iff.2 ⟨rfl, by simpa using hsome⟩

/-- A session names an agent just if its id ends with an underscore and a name behind it, which
is not empty and holds no underscore; else it names none. The ids that are taken for UUIDs are
those that can be read as one, and they have one of the four forms; none of them holds an
underscore, so there is no name to hide. -/
theorem agent_named_iff (s : String) :
    (∀ agent, agentOf? s = some agent ↔
      ∃ front, s = front ++ "_" ++ agent ∧ agent ≠ "" ∧ '_' ∉ agent.toList) ∧
    (agentOf? s = none ↔
      ¬ ∃ front agent, s = front ++ "_" ++ agent ∧ agent ≠ "" ∧ '_' ∉ agent.toList) ∧
    (Uuid.accepts s.toList = true ↔ Uuid.Written s.toList) ∧
    ((Uuid.ofText? s).isSome = true ↔ Uuid.Written s.toList) ∧
    (Uuid.accepts s.toList = true → '_' ∉ s.toList) := by
  refine ⟨fun _ => agentOf?_eq_some_iff, ?_, Uuid.accepts_iff, Uuid.isSome_ofText?_iff,
    fun h => (Uuid.accepts_iff.1 h).underscore_notMem⟩
  rw [Option.eq_none_iff_forall_ne_some, exists_comm, not_exists]
  exact forall_congr' fun agent => not_congr agentOf?_eq_some_iff

/-- Of two underscores the last one counts, and a UUID in braces names no agent. -/
theorem last_underscore_names_agent :
    agentOf? "a_b_explorer" = some "explorer" ∧
      Uuid.accepts "\x7b6f1c2d3e-4a5b-4c6d-8e9f-0a1b2c3d4e5f\x7d".toList = true ∧
      agentOf? "\x7b6f1c2d3e-4a5b-4c6d-8e9f-0a1b2c3d4e5f\x7d" = none := by
  have haccepts :
      Uuid.accepts "\x7b6f1c2d3e-4a5b-4c6d-8e9f-0a1b2c3d4e5f\x7d".toList = true := by decide
  obtain ⟨-, hnone, -, -, hfree⟩ := agent_named_iff "\x7b6f1c2d3e-4a5b-4c6d-8e9f-0a1b2c3d4e5f\x7d"
  refine ⟨((agent_named_iff "a_b_explorer").1 "explorer").2 ⟨"a_b", rfl, by decide, by decide⟩,
    haccepts, hnone.2 ?_⟩
  rintro ⟨front, agent, hid, -, -⟩
  have hmem : '_' ∈ (front ++ "_" ++ agent).toList := by simp
  exact hfree haccepts (hid ▸ hmem)

end SessionRecorder
