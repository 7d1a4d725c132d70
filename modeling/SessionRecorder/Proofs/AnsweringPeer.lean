import SessionRecorder.Proofs.LossyPeer

/-!
A peer that answers each request at most once, over the connection that the request came on.
What it sends may be cut off, and may come in time, late or never. Every octet is marked with
the number of the request that it answers, and a connection that the client gives up stays
open. Main statement: `converse_spec`.
-/

namespace SessionRecorder

open Bytes Wire LossyPeer

namespace AnsweringPeer

/-- What happens to one request. -/
structure Conduct where
  /-- How the writing of the request fails, if it does. -/
  lost : Option Loss := none
  /-- All that the peer ever sends in answer. -/
  sent : Bytes := []
  /-- For each read after the request, how many octets have come in time that no read
  before it took. -/
  come : Nat → Nat := fun _ => 0
  /-- How a read ends whose octets have not come in time. -/
  ending : Loss := .silence

/-- What happens on a network: to each request, by its number, and to each dialling. -/
structure Plan where
  conduct : Nat → Conduct
  dials : Nat → Option Loss := fun _ => none

/-- How an exchange ends by what happens to its own request. -/
def Conduct.fate (k : Conduct) : Io (UInt16 × Bytes) :=
  let length := fieldLE 0 4 k.sent
  match k.lost with
  | some loss => loss.ended
  | none =>
    if min (k.come 0) k.sent.length < headerSize then k.ending.ended
    else if maxPayload < length then .fault (.oversized length maxPayload)
    else if min (k.come 1) (k.sent.length - headerSize) < length then k.ending.ended
    else .done (.ofNat (fieldLE 4 2 k.sent), (k.sent.drop headerSize).take length)

/-- The peer answers with this frame, and all of it comes in time. -/
structure Conduct.Brings (k : Conduct) (f : Frame) : Prop where
  lost : k.lost = none
  sent : k.sent = f.encode
  header : headerSize ≤ k.come 0
  payload : f.payload.length ≤ k.come 1
  size : f.payload.length ≤ maxPayload

/-- Every request is answered by one frame, or by the beginning of one. -/
def Plan.Framed (plan : Plan) : Prop :=
  ∀ n, ∃ f : Frame, f.payload.length < 2 ^ 32 ∧ (plan.conduct n).sent <+: f.encode

end AnsweringPeer

structure AnsweringPeer (plan : AnsweringPeer.Plan) where
  /-- How many connections have been dialled. -/
  dialed : Nat := 0
  /-- How many requests have been written. The last of them has this number. -/
  requests : Nat := 0
  /-- How many reads there have been since the last request. -/
  reads : Nat := 0
  /-- The octets of a connection that no read took, with the requests they answer. -/
  unread : Nat → List (Nat × UInt8) := fun _ => []
  /-- The octets that reads took, with the requests they answer. -/
  taken : List (Nat × UInt8) := []

namespace AnsweringPeer

variable {plan : Plan}

def hold (c : Nat) (octets : List (Nat × UInt8)) (p : AnsweringPeer plan) : AnsweringPeer plan :=
  { p with unread := fun d => if d = c then octets else p.unread d }

/-- A read takes the first octets of a connection. -/
def take (c count : Nat) (p : AnsweringPeer plan) : AnsweringPeer plan :=
  { p with
    reads := p.reads + 1
    taken := p.taken ++ (p.unread c).take count }.hold c ((p.unread c).drop count)

def dial (p : AnsweringPeer plan) : Io Nat × AnsweringPeer plan :=
  let q := { p with dialed := p.dialed + 1 }.hold p.dialed []
  match plan.dials p.dialed with
  | some loss => (loss.ended, q)
  | none => (.done p.dialed, q)

def write (c : Nat) (p : AnsweringPeer plan) : Io Unit × AnsweringPeer plan :=
  let id := p.requests + 1
  let answer := (plan.conduct id).sent.map fun octet => (id, octet)
  let q := { p with requests := id, reads := 0 }.hold c (p.unread c ++ answer)
  match (plan.conduct id).lost with
  | some loss => (loss.ended, q)
  | none => (.done (), q)

/-- A read that fails still takes what has come. -/
def read (c count : Nat) (p : AnsweringPeer plan) : Io Bytes × AnsweringPeer plan :=
  let k := plan.conduct p.requests
  let arrived := (p.unread c).take (k.come p.reads)
  if count ≤ arrived.length then (.done ((arrived.take count).map (·.2)), p.take c count)
  else (k.ending.ended, p.take c arrived.length)

instance : Network (AnsweringPeer plan) where
  Connection := Nat
  dial _ := dial
  write c _ := write c
  read := read
  hangUp _ p := p

/-! ## Reading what answers the last request -/

/-- Reads between the two states took only octets that answer the last request. -/
structure Took (p q : AnsweringPeer plan) : Prop where
  requests : q.requests = p.requests
  taken : ∃ octets, q.taken = p.taken ++ octets ∧ ∀ o ∈ octets, o.1 = p.requests

theorem Took.trans {p q r : AnsweringPeer plan} (hpq : Took p q) (hqr : Took q r) : Took p r := by
  obtain ⟨first, hfirst, hown⟩ := hpq.taken
  obtain ⟨second, hsecond, hown'⟩ := hqr.taken
  refine ⟨hqr.requests.trans hpq.requests, first ++ second, ?_, ?_⟩
  · rw [hsecond, hfirst, List.append_assoc]
  · intro o ho
    rcases List.mem_append.1 ho with ho | ho
    · exact hown o ho
    · exact (hown' o ho).trans hpq.requests

/-- The connection holds just these octets, and they answer the last request. -/
def Holds (c : Nat) (octets : Bytes) (p : AnsweringPeer plan) : Prop :=
  p.unread c = octets.map fun octet => (p.requests, octet)

variable {p q : AnsweringPeer plan} {c : Nat} {octets : Bytes}

theorem Holds.take (h : Holds c octets p) (count : Nat) :
    Holds c (octets.drop count) (p.take c count) ∧ Took p (p.take c count) := by
  unfold Holds at h
  refine ⟨?_, rfl, (octets.take count).map fun octet => (p.requests, octet), ?_, ?_⟩
  · unfold Holds
    rw [List.map_drop]
    simp [AnsweringPeer.take, hold, h]
  · rw [List.map_take, ← h]
    rfl
  · intro o ho
    obtain ⟨octet, _, rfl⟩ := List.mem_map.1 ho
    rfl

theorem Holds.read_done (h : Holds c octets p) {count : Nat}
    (hcount : count ≤ min ((plan.conduct p.requests).come p.reads) octets.length) :
    p.read c count = (.done (octets.take count), p.take c count) := by
  unfold Holds at h
  have hcome : count ≤ ((p.unread c).take ((plan.conduct p.requests).come p.reads)).length := by
    rwa [h, List.length_take, List.length_map]
  have hoctets : (octets.map fun octet => (p.requests, octet)).map (·.2) = octets := by
    rw [List.map_map]
    exact List.map_id octets
  unfold AnsweringPeer.read
  simp only [hcome, ↓reduceIte]
  rw [List.take_take, Nat.min_eq_left (by omega), h, List.map_take, hoctets]

theorem Holds.read_short (h : Holds c octets p) {count : Nat}
    (hcount : min ((plan.conduct p.requests).come p.reads) octets.length < count) :
    ∃ taken, p.read c count = ((plan.conduct p.requests).ending.ended, p.take c taken) := by
  unfold Holds at h
  have hcome : ¬ count ≤ ((p.unread c).take ((plan.conduct p.requests).come p.reads)).length := by
    rw [h, List.length_take, List.length_map]
    omega
  unfold AnsweringPeer.read
  simp only [hcome, ↓reduceIte]
  exact ⟨_, rfl⟩

theorem andThen_ended {α β ν : Type} (loss : Loss) (net : ν) (next : α → ν → Io β × ν) :
    Io.andThen (loss.ended, net) next = (loss.ended, net) := by
  cases loss <;> rfl

theorem andThen_done {α β ν : Type} (result : α) (net : ν) (next : α → ν → Io β × ν) :
    Io.andThen (.done result, net) next = next result net := rfl

theorem ended_ne_done {α : Type} (loss : Loss) (result : α) : loss.ended ≠ .done result := by
  cases loss <;> exact fun h => by cases h

/-- Reading the rest of a frame takes all of it, or fails. -/
theorem Holds.read_rest {k : Conduct} (hk : plan.conduct p.requests = k) (h : Holds c octets p)
    {length : Nat} (hlength : octets.length ≤ length) (type : UInt16) :
    let r := Io.andThen (p.read c length) fun body net => (.done (type, body), net)
    r.1 = (if min (k.come p.reads) octets.length < length then k.ending.ended
      else .done (type, octets.take length)) ∧
      Took p r.2 ∧ ∀ result, r.1 = .done result → r.2.unread c = [] := by
  subst hk
  split
  · rename_i hshort
    obtain ⟨taken, hread⟩ := h.read_short hshort
    rw [hread, andThen_ended]
    exact ⟨rfl, (h.take taken).2, fun result hresult => absurd hresult (ended_ne_done _ _)⟩
  · rename_i henough
    obtain ⟨hleft, htook⟩ := h.take length
    rw [List.drop_eq_nil_of_le hlength] at hleft
    rw [h.read_done (Nat.not_lt.1 henough), andThen_done]
    exact ⟨rfl, htook, fun _ _ => hleft⟩

/-- The client receives what the fate of the request is. It leaves nothing of a frame that it
receives. -/
theorem receive_spec {k : Conduct} (hk : plan.conduct p.requests = k) (hlost : k.lost = none)
    {f : Frame} (hf : f.payload.length < 2 ^ 32) (hsent : k.sent <+: f.encode)
    (hreads : p.reads = 0) (hheld : Holds c k.sent p) :
    let r := Client.receive (ν := AnsweringPeer plan) c p
    r.1 = k.fate ∧ Took p r.2 ∧ ∀ result, r.1 = .done result → r.2.unread c = [] := by
  unfold Client.receive Conduct.fate
  simp only [hlost]
  by_cases hheader : min (k.come 0) k.sent.length < headerSize
  · obtain ⟨taken, hread⟩ := hheld.read_short (by rwa [hk, hreads])
    rw [show Network.read c headerSize p = _ from hread, andThen_ended, hk, if_pos hheader]
    exact ⟨rfl, (hheld.take taken).2, fun result h => absurd h (ended_ne_done _ _)⟩
  · have henough := Nat.not_lt.1 hheader
    have hwhole : headerSize ≤ k.sent.length := Nat.le_trans henough (Nat.min_le_right _ _)
    have hlength := Frame.fieldLE_of_prefix hf hsent hwhole
    have hword : (UInt32.ofNat f.payload.length).toNat = f.payload.length := by
      rw [UInt32.toNat_ofNat', Nat.mod_eq_of_lt hf]
    have hrest : (k.sent.drop headerSize).length ≤ f.payload.length := by
      have hall := hsent.length_le
      rw [Frame.length_encode] at hall
      rw [List.length_drop]
      omega
    obtain ⟨hbody, htook⟩ := hheld.take headerSize
    have hread : p.read c headerSize = _ := hheld.read_done (by rwa [hk, hreads])
    rw [show Network.read c headerSize p = _ from hread, if_neg hheader, andThen_done]
    simp only [Header.decode_take hwhole, hlength, hword]
    split
    · exact ⟨rfl, htook, fun result h => by cases h⟩
    · split
      · rename_i hempty
        have hnothing : k.sent.drop headerSize = [] := by
          rw [← List.length_eq_zero_iff]
          omega
        rw [hnothing] at hbody
        rw [hempty, if_neg (Nat.not_lt_zero _)]
        exact ⟨rfl, htook, fun _ _ => hbody⟩
      · obtain ⟨hended, htook', hleft⟩ := Holds.read_rest (p := p.take c headerSize) hk hbody hrest
          (.ofNat (fieldLE 4 2 k.sent))
        rw [List.length_drop, show (p.take c headerSize).reads = 1 from congrArg (· + 1) hreads]
          at hended
        exact ⟨hended, htook.trans htook', hleft⟩

theorem Conduct.fate_of_brings {k : Conduct} {f : Frame} (h : k.Brings f) :
    k.fate = .done (f.messageType, f.payload) := by
  obtain ⟨hlost, hsent, hheader, hpayload, hsize⟩ := h
  have hprefix : k.sent <+: f.encode := hsent ▸ List.prefix_refl f.encode
  have hall : k.sent.length = headerSize + f.payload.length := hsent ▸ Frame.length_encode f
  have hwhole : headerSize ≤ k.sent.length := by omega
  have hlength : fieldLE 0 4 k.sent = f.payload.length :=
    Frame.fieldLE_of_prefix (Nat.lt_of_le_of_lt hsize (by decide)) hprefix hwhole
  have htype : .ofNat (fieldLE 4 2 k.sent) = f.messageType :=
    (congrArg Header.messageType (Frame.header_of_prefix hprefix hwhole)).symm
  have hbody : (k.sent.drop headerSize).take f.payload.length = f.payload := by
    rw [hsent, Frame.encode_eq, List.drop_left' (Header.length_encode f.header), List.take_length]
  unfold Conduct.fate
  simp only [hlost, hlength, htype, hbody]
  rw [if_neg (by omega), if_neg (by omega), if_neg (by omega)]

/-- What becomes of a peer in an exchange that sends a request: the result is the fate of that
request, and every octet that is read answers it. -/
structure Exchanged (c : Nat) (ended : Io (UInt16 × Bytes)) (p q : AnsweringPeer plan) : Prop where
  requests : q.requests = p.requests + 1
  fate : ended = (plan.conduct (p.requests + 1)).fate
  taken : ∃ octets, q.taken = p.taken ++ octets ∧ ∀ o ∈ octets, o.1 = p.requests + 1
  quiet : ∀ result, ended = .done result → q.unread c = []

theorem converse_spec (hplan : plan.Framed) (frame : Bytes) (hquiet : p.unread c = []) :
    let r := Client.converse (ν := AnsweringPeer plan) c frame p
    Exchanged c r.1 p r.2 := by
  obtain ⟨f, hf, hsent⟩ := hplan (p.requests + 1)
  let written : AnsweringPeer plan :=
    { p with requests := p.requests + 1, reads := 0 }.hold c
      (p.unread c ++ (plan.conduct (p.requests + 1)).sent.map fun octet => (p.requests + 1, octet))
  have hheld : Holds c (plan.conduct (p.requests + 1)).sent written := by
    simp [Holds, written, hold, hquiet]
  unfold Client.converse
  cases hlost : (plan.conduct (p.requests + 1)).lost with
  | some loss =>
    have hwrite : p.write c = (loss.ended, written) := by
      simp only [write, hlost]
      rfl
    rw [show Network.write c frame p = _ from hwrite, andThen_ended]
    exact ⟨rfl, by simp [Conduct.fate, hlost], ⟨[], by simp [written, hold], by simp⟩,
      fun result h => absurd h (ended_ne_done _ _)⟩
  | none =>
    have hwrite : p.write c = (.done (), written) := by
      simp only [write, hlost]
      rfl
    rw [show Network.write c frame p = _ from hwrite, andThen_done]
    obtain ⟨hfate, htook, hleft⟩ := receive_spec rfl hlost hf hsent rfl hheld
    exact ⟨htook.requests, hfate, htook.taken, hleft⟩

end AnsweringPeer

end SessionRecorder
