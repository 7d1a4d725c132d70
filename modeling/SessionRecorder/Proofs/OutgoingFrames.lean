import Mathlib.Data.List.Forall2
import SessionRecorder.Proofs.FrameStream
import SessionRecorder.Proofs.TracedClient

/-!
What a client sends, told by its calls and their results. The requests that were made on a
connection stand there one after the other as frames, from which the calls are read again, and the
ids of the requests ascend over all connections. Main statement: `outgoing_frames`.
-/

namespace SessionRecorder

open Bytes Wire

/-- A call with its result. -/
abbrev MadeCall := StoreCall × Except StoreError StoreAnswer

/-- Whether the request of a call could be written. -/
def MadeCall.writable (made : MadeCall) : Bool :=
  match made.2 with
  | .error e => !e.isWire
  | .ok _ => true

/-! ## The calls on each connection -/

/-- The calls on each connection with one more: a request on the last one, or the `connect` that
opened the next. -/
def addCall (cs : List (List MadeCall)) (made : MadeCall) : List (List MadeCall) :=
  if made.1.reached made.2 then
    if made.1.isRequest then cs.modify (cs.length - 1) (· ++ [made]) else cs ++ [[made]]
  else cs

/-- The calls that were made on each connection, in the order in which these were opened. -/
def conversations (history : List MadeCall) : List (List MadeCall) := history.foldl addCall []

/-- The first call on a connection opens it, and the others are requests. -/
def Opened (calls : List MadeCall) : Prop :=
  ∃ result rest, calls = (.connect, result) :: rest ∧ ∀ made ∈ rest, made.1.isRequest = true

theorem modify_last {α : Type} (front : List α) (x : α) (f : α → α) :
    (front ++ [x]).modify front.length f = front ++ [f x] := by
  induction front with
  | nil => rfl
  | cons y front ih => exact congrArg (y :: ·) ih

theorem opened_addCall {P : MadeCall → Prop} {cs : List (List MadeCall)} {made : MadeCall}
    (h : ∀ calls ∈ cs, Opened calls ∧ ∀ m ∈ calls, P m) (hmade : P made) :
    ∀ calls ∈ addCall cs made, Opened calls ∧ ∀ m ∈ calls, P m := by
  unfold addCall
  split
  · split
    · rename_i hrequest
      rcases List.eq_nil_or_concat cs with rfl | ⟨front, last, rfl⟩
      · exact h
      · rw [List.concat_eq_append] at h ⊢
        rw [List.length_append, List.length_singleton, Nat.add_sub_cancel, modify_last]
        intro calls hcalls
        rcases List.mem_append.1 hcalls with hfront | hlast
        · exact h calls (List.mem_append_left _ hfront)
        · obtain ⟨⟨result, rest, rfl, hrest⟩, hP⟩ := h last (by simp)
          rw [List.mem_singleton.1 hlast]
          refine ⟨⟨result, rest ++ [made], rfl, ?_⟩, ?_⟩
          · exact List.forall_mem_append.2 ⟨hrest, by simpa using hrequest⟩
          · exact List.forall_mem_append.2 ⟨hP, by simpa using hmade⟩
    · rename_i hreached hrequest
      refine List.forall_mem_append.2 ⟨h, ?_⟩
      simp only [List.mem_singleton, forall_eq]
      obtain ⟨call, result⟩ := made
      cases call with
      | connect => exact ⟨⟨result, [], rfl, nofun⟩, hmade⟩
      | close => cases hreached
      | create | fork | head | append => exact absurd rfl hrequest
  · exact h

theorem opened_conversations {P : MadeCall → Prop} {history : List MadeCall}
    (h : ∀ made ∈ history, P made) :
    ∀ calls ∈ conversations history, Opened calls ∧ ∀ m ∈ calls, P m := by
  have hfold (cs : List (List MadeCall)) (hcs : ∀ calls ∈ cs, Opened calls ∧ ∀ m ∈ calls, P m) :
      ∀ calls ∈ history.foldl addCall cs, Opened calls ∧ ∀ m ∈ calls, P m := by
    induction history generalizing cs with
    | nil => exact hcs
    | cons made rest ih =>
      obtain ⟨hmade, hrest⟩ := List.forall_mem_cons.1 h
      exact ih hrest _ (opened_addCall hcs hmade)
  exact hfold [] nofun

/-! ## Transcripts -/

/-- How octets carry the frames of calls. -/
inductive Carried (calls : List MadeCall) : List Frame → Bytes → Prop where
  | whole {frames : List Frame} {octets : Bytes} (h : Frame.split octets = (frames, [])) :
    Carried calls frames octets
  /-- The last call has failed on the connection, and part of its frame has been sent. -/
  | cut {front : List Frame} {last : Frame} {part octets : Bytes} {call : StoreCall}
    {e : StoreError} (hcall : calls.getLast? = some (call, .error e)) (he : e.isConnection = true)
    (hpart : part <+: last.encode) (hcut : part ≠ last.encode)
    (h : Frame.split octets = (front, part)) : Carried calls (front ++ [last]) octets

/-- The calls on a connection, the frames of those that can be written, and the octets that were
sent. -/
structure Transcript (config : ClientConfig) where
  calls : List MadeCall
  frames : List Frame
  octets : Bytes
  asks : List.Forall₂ (fun made f => f.Asks config made.1) (calls.filter (·.writable)) frames
  carried : Carried calls frames octets

namespace Transcript

variable {config : ClientConfig}

/-- Nothing is cut short. -/
def Whole (t : Transcript config) : Prop := Frame.split t.octets = (t.frames, [])

/-- A connection on which no call was made. -/
def empty : Transcript config where
  calls := []
  frames := []
  octets := []
  asks := .nil
  carried := .whole Frame.split_nil

variable {t : Transcript config} {call : StoreCall} {result : Except StoreError StoreAnswer}
  {frames : List Frame} {octets : Bytes}

/-- A transcript with one more call, where nothing was cut short before. -/
theorem exists_add {P : Frame → Prop} (ht : t.Whole) (hP : ∀ f, P f → f.Asks config call)
    (h : Puts P result frames octets) :
    ∃ t' : Transcript config, t'.calls = t.calls ++ [(call, result)] ∧
      t'.frames = t.frames ++ frames ∧ t'.octets = t.octets ++ octets ∧
      (octets = frames.flatMap Frame.encode → t'.Whole) := by
  have hwritten {f : Frame} (hf : f.Asks config call)
      (hresult : ∀ e, result = .error e → e.isWire = false) :
      List.Forall₂ (fun made g => g.Asks config made.1)
        ((t.calls ++ [(call, result)]).filter (·.writable)) (t.frames ++ [f]) := by
    have hwritable : MadeCall.writable (call, result) = true := by
      unfold MadeCall.writable
      cases result with
      | ok => rfl
      | error e => simpa using hresult e rfl
    rw [List.filter_append, List.filter_cons_of_pos hwritable]
    exact List.rel_append t.asks (.cons hf .nil)
  have hwhole {f : Frame} (hlength : f.payload.length < 2 ^ 32) :
      Frame.split (t.octets ++ f.encode) = (t.frames ++ [f], []) := by
    rw [Frame.split_append ht, Frame.split_encode hlength]
  cases h with
  | nothing he =>
    rename_i e
    have hunwritable : ¬ MadeCall.writable (call, .error e) = true := by
      simpa [MadeCall.writable] using he
    refine ⟨⟨t.calls ++ [(call, .error e)], t.frames, t.octets, ?_, .whole ht⟩, rfl,
      (List.append_nil _).symm, (List.append_nil _).symm, fun _ => ht⟩
    rw [List.filter_append, List.filter_cons_of_neg hunwritable, List.filter_nil, List.append_nil]
    exact t.asks
  | whole hf hlength hresult =>
    rename_i f
    exact ⟨⟨t.calls ++ [(call, result)], t.frames ++ [f], t.octets ++ f.encode,
      hwritten (hP f hf) hresult, .whole (hwhole hlength)⟩, rfl, rfl, rfl, fun _ => hwhole hlength⟩
  | cut hf hlength he hpart hcut =>
    rename_i e f
    have hnotWire : ∀ e', (.error e : Except StoreError StoreAnswer) = .error e' →
        e'.isWire = false := by
      rintro _ ⟨⟩
      cases e <;> first | rfl | cases he
    have hsplit : Frame.split (t.octets ++ octets) = (t.frames, octets) := by
      rw [Frame.split_append ht, Frame.split_of_unreadable (Frame.decode_of_cut hlength hpart hcut),
        List.append_nil]
    refine ⟨⟨t.calls ++ [(call, .error e)], t.frames ++ [f], t.octets ++ octets,
      hwritten (hP f hf) hnotWire, .cut List.getLast?_concat he hpart hcut hsplit⟩, rfl, rfl, rfl,
      ?_⟩
    intro hencode
    exact absurd (hencode.trans (List.flatMap_singleton ..)) hcut

end Transcript

/-! ## Request ids -/

/-- The ids of frames, after `n` requests of which the last had the id `last`. -/
structure Numbered (n : Nat) (last : UInt64) (ids : List UInt64) : Prop where
  count : last.toNat ≤ n
  bounded : ∀ id ∈ ids, id ≤ last
  ascending : ids.Pairwise (· < ·)

namespace Numbered

variable {n : Nat} {last : UInt64} {ids : List UInt64}

theorem same (h : Numbered n last ids) : Numbered (n + 1) last ids :=
  ⟨Nat.le_succ_of_le h.count, h.bounded, h.ascending⟩

theorem toNat_next (h : Numbered n last ids) (hn : n + 1 < 2 ^ 64) :
    (last + 1).toNat = last.toNat + 1 := by
  have hlast := h.count
  rw [UInt64.toNat_add, UInt64.toNat_one, Nat.mod_eq_of_lt (by omega)]

/-- An id may be used up by a request that is never sent. -/
theorem skip (h : Numbered n last ids) (hn : n + 1 < 2 ^ 64) : Numbered (n + 1) (last + 1) ids := by
  have hnext := h.toNat_next hn
  have hlast := h.count
  refine ⟨by omega, fun id hid => ?_, h.ascending⟩
  have hle := h.bounded id hid
  rw [UInt64.le_iff_toNat_le] at hle ⊢
  omega

theorem next (h : Numbered n last ids) (hn : n + 1 < 2 ^ 64) :
    Numbered (n + 1) (last + 1) (ids ++ [last + 1]) := by
  obtain ⟨hcount, hbounded, -⟩ := h.skip hn
  refine ⟨hcount, List.forall_mem_append.2 ⟨hbounded, by simp⟩, ?_⟩
  refine List.pairwise_append.2 ⟨h.ascending, List.pairwise_singleton _ _, ?_⟩
  intro id hid id' hid'
  rw [List.mem_singleton.1 hid', UInt64.lt_iff_toNat_lt, h.toNat_next hn]
  have hle := h.bounded id hid
  rw [UInt64.le_iff_toNat_le] at hle
  omega

end Numbered

/-! ## Runs -/

/-- The ids of the frames on all connections. -/
def requestIds {config : ClientConfig} (ts : List (Transcript config)) : List UInt64 :=
  (ts.flatMap (·.frames)).map (·.requestId)

/-- The calls on each connection, the octets sent there and the id of the last request, as
transcripts have them. -/
structure Recorded {config : ClientConfig} (ts : List (Transcript config))
    (cs : List (List MadeCall)) (lines : List Bytes) (last : UInt64) : Prop where
  calls : ts.map (·.calls) = cs
  octets : ts.map (·.octets) = lines
  ids : cs.flatten.length < 2 ^ 64 → Numbered cs.flatten.length last (requestIds ts)

/-- The connection `i` is the last, and nothing on it is cut short. -/
def Standing {config : ClientConfig} (ts : List (Transcript config)) (i : Nat) : Prop :=
  ∃ front t, ts = front ++ [t] ∧ i = front.length ∧ t.Whole

section

variable {config : ClientConfig} {ts : List (Transcript config)} {cs : List (List MadeCall)}
  {lines : List Bytes} {last next : UInt64} {i : Nat} {call : StoreCall}
  {result : Except StoreError StoreAnswer} {frames : List Frame} {octets : Bytes}

/-- A new connection. -/
theorem Recorded.dialled (h : Recorded ts cs lines last) :
    Recorded (ts ++ [.empty]) (cs ++ [[]]) (lines ++ [[]]) last ∧
      Standing (ts ++ [.empty]) lines.length := by
  refine ⟨⟨?_, ?_, fun hcount => ?_⟩, ts, .empty, rfl, ?_, Frame.split_nil⟩
  · rw [List.map_append, h.calls]
    rfl
  · rw [List.map_append, h.octets]
    rfl
  · rw [List.flatten_append, show [[]].flatten = ([] : List MadeCall) from rfl, List.append_nil]
      at hcount ⊢
    have hids : requestIds (ts ++ [.empty]) = requestIds ts := by
      simp [requestIds, Transcript.empty]
    rw [hids]
    exact h.ids hcount
  · rw [← h.octets, List.length_map]

/-- One more call on the last connection. -/
theorem Recorded.said (h : Recorded ts cs lines last) (hi : Standing ts i)
    (hputs : Puts (fun f => f.Asks config call ∧ f.requestId = last + 1) result frames octets)
    (hnext : next = last + 1 ∨ next = last ∧ frames = []) :
    ∃ ts' : List (Transcript config),
      Recorded ts' (cs.modify (cs.length - 1) (· ++ [(call, result)]))
        (lines.modify i (· ++ octets)) next ∧
      (octets = frames.flatMap Frame.encode → Standing ts' i) := by
  obtain ⟨front, t, rfl, rfl, hwhole⟩ := hi
  obtain ⟨t', hcalls, hframes, hoctets, hstanding⟩ :=
    t.exists_add hwhole (fun f hf => hf.1) hputs
  obtain ⟨rfl, rfl, hids⟩ := h
  have hcs : ((front ++ [t]).map (·.calls)).modify (((front ++ [t]).map (·.calls)).length - 1)
      (· ++ [(call, result)]) = front.map (·.calls) ++ [t.calls ++ [(call, result)]] := by
    rw [List.map_append, List.map_singleton, List.length_append, List.length_singleton,
      Nat.add_sub_cancel, modify_last]
  refine ⟨front ++ [t'], ⟨?_, ?_, fun hcount => ?_⟩, fun h => ⟨front, t', rfl, rfl, hstanding h⟩⟩
  · rw [hcs, List.map_append, List.map_singleton, hcalls]
  · rw [← List.length_map (·.octets), List.map_append, List.map_append, List.map_singleton,
      List.map_singleton, modify_last, hoctets]
  · have hlength : (front.map (·.calls) ++ [t.calls ++ [(call, result)]]).flatten.length =
        ((front ++ [t]).map (·.calls)).flatten.length + 1 := by
      simp [Nat.add_assoc]
    have hrequests : requestIds (front ++ [t']) =
        requestIds (front ++ [t]) ++ frames.map (·.requestId) := by
      simp [requestIds, hframes]
    rw [hcs, hlength] at hcount ⊢
    have hids := hids (by omega)
    rw [hrequests]
    rcases hnext with rfl | ⟨rfl, rfl⟩
    · cases hputs with
      | nothing he => simpa using hids.skip hcount
      | whole hf | cut hf => simpa [hf.2] using hids.next hcount
    · simpa using hids.same

end

/-- What a client has sent is told by transcripts of its calls. -/
structure Told {ν : Type} [Network ν] (config : ClientConfig) (s : Client (Traced ν))
    (cs : List (List MadeCall)) (ts : List (Transcript config)) : Prop where
  config : s.config = config
  recorded : Recorded ts cs s.net.lines s.lastRequest
  standing : ∀ c, s.connection = some c → Standing ts c.1

section

variable {ν : Type} [Network ν] {config : ClientConfig} {s t : Client (Traced ν)}
  {cs : List (List MadeCall)} {lines : List Bytes} {ts : List (Transcript config)} {i : Nat}
  {call : StoreCall} {result : Except StoreError StoreAnswer}

theorem Client.Speaks.told (h : Client.Speaks call s lines i result t) (hconfig : s.config = config)
    (hrecorded : Recorded ts cs lines s.lastRequest) (hi : Standing ts i) :
    ∃ ts' : List (Transcript config),
      Told config t (cs.modify (cs.length - 1) (· ++ [(call, result)])) ts' := by
  obtain ⟨hsame, frames, octets, hputs, hlines, hlast, hconnection⟩ := h
  rw [hconfig] at hputs
  obtain ⟨ts', hrecorded, hstanding⟩ := hrecorded.said hi hputs hlast
  rw [← hlines] at hrecorded
  refine ⟨ts', hsame.trans hconfig, hrecorded, fun c hc => ?_⟩
  rcases hconnection with hnone | ⟨hcomplete, c', hc', rfl⟩
  · rw [hnone] at hc
    cases hc
  · rw [hc'] at hc
    cases hc
    exact hstanding hcomplete

/-- A call is told as its result shows. -/
theorem Told.perform (call : StoreCall) (h : Told config s cs ts) :
    ∃ ts' : List (Transcript config),
      Told config (call.perform s).2 (addCall cs (call, (call.perform s).1)) ts' := by
  obtain ⟨hconfig, hrecorded, hstanding⟩ := h
  have heffect := Client.perform_effect call s
  generalize (call.perform s).1 = result, (call.perform s).2 = t at heffect
  unfold addCall
  cases heffect with
  | silent hreached hsame hlines hlast hconnection =>
    refine ⟨ts, hsame.trans hconfig, ?_, fun c hc => ?_⟩
    · simp only [hreached, Bool.false_eq_true, ↓reduceIte, hlines, hlast]
      exact hrecorded
    · rcases hconnection with hnone | hsame
      · rw [hnone] at hc
        cases hc
      · exact hstanding c (hsame ▸ hc)
  | opened hcall hreached hspeaks =>
    subst hcall
    obtain ⟨hdialled, hlast⟩ := hrecorded.dialled
    obtain ⟨ts', htold⟩ := hspeaks.told hconfig hdialled hlast
    rw [List.length_append, List.length_singleton, Nat.add_sub_cancel, modify_last] at htold
    simp only [hreached, show StoreCall.connect.isRequest = false from rfl, Bool.false_eq_true,
      ↓reduceIte]
    exact ⟨ts', htold⟩
  | sent hcall hreached hc hspeaks =>
    simp only [hreached, hcall, ↓reduceIte]
    exact hspeaks.told hconfig hrecorded (hstanding _ hc)

theorem told_run (calls : List StoreCall) (h : Told config s cs ts) :
    ∃ ts' : List (Transcript config), Told config (StoreCall.run calls s)
      ((StoreCall.results calls s).foldl addCall cs) ts' := by
  induction calls generalizing s cs ts with
  | nil => exact ⟨ts, h⟩
  | cons call rest ih =>
    obtain ⟨ts', htold⟩ := h.perform call
    exact ih htold

/-! ## The tag -/

namespace Client

/-- A call leaves the configuration. -/
theorem config_perform (call : StoreCall) (s : Client (Traced ν)) :
    (call.perform s).2.config = s.config := by
  have heffect := perform_effect call s
  generalize (call.perform s).1 = result, (call.perform s).2 = t at heffect
  cases heffect with
  | silent hreached hconfig => exact hconfig
  | opened hcall hreached h | sent hcall hreached hc h => exact h.config

/-- Where the tag has a field, the greeting can be written. -/
theorem connect_not_wire {e : StoreError} (h : (Text.utf8 s.config.tag).length < 2 ^ 16)
    (he : s.connect.1 = .error e) : e.isWire = false := by
  have hbody : handshake s.config.tag = .ok _ := if_pos h
  unfold connect at he
  rcases s.close.net.dial_cases s.close.config.address with
    ⟨c, net, hdial⟩ | ⟨cause, net, hdial⟩ | ⟨net, hdial⟩ <;>
    simp only [show Network.dial s.close.config.address s.close.net = _ from hdial] at he
  · simp only [greet, config_close, hbody] at he
    split at he
    · rename_i e' hexchange
      cases he
      unfold exchange Frame.encode? at hexchange
      rw [if_pos (by simp; omega)] at hexchange
      exact outcome_not_wire hexchange
    · cases he
  · cases he
    rfl
  · cases he
    rfl

theorem writable_results (calls : List StoreCall) (h : (Text.utf8 s.config.tag).length < 2 ^ 16) :
    ∀ made ∈ StoreCall.results calls s, made.1 = .connect →
      MadeCall.writable made = true := by
  induction calls generalizing s with
  | nil => nofun
  | cons call rest ih =>
    refine List.forall_mem_cons.2 ⟨?_, ih (by rwa [config_perform])⟩
    rintro rfl
    change MadeCall.writable (.connect, s.connect.1.map fun _ => .nothing) = true
    cases hconnect : s.connect.1 with
    | ok => rfl
    | error e => simpa [MadeCall.writable, Except.map] using connect_not_wire h hconnect

/-- Where the tag has no field, nothing is sent on a new connection, and it is not kept. -/
theorem connect_long (h : 2 ^ 16 ≤ (Text.utf8 s.config.tag).length) :
    s.connect.2.connection = none ∧
      (s.connect.2.net.lines = s.net.lines ∨ s.connect.2.net.lines = s.net.lines ++ [[]]) := by
  obtain ⟨e, he⟩ := connect_longTag h
  have hbody : handshake s.config.tag = .error _ := if_neg (Nat.not_lt.2 h)
  refine ⟨(connect_error (Prod.ext he rfl)).connection, ?_⟩
  unfold connect
  rcases s.close.net.dial_cases s.close.config.address with
    ⟨c, net, hdial⟩ | ⟨cause, net, hdial⟩ | ⟨net, hdial⟩ <;>
    simp only [show Network.dial s.close.config.address s.close.net = _ from hdial]
  · simp only [greet, config_close, hbody]
    exact .inr (congrArg (· ++ [[]]) (lines_close s))
  · exact .inl (lines_close s)
  · exact .inl (lines_close s)

/-- Where the tag has no field, nothing is ever sent. -/
theorem lines_long (calls : List StoreCall) (h : 2 ^ 16 ≤ (Text.utf8 s.config.tag).length)
    (hs : s.connection = none) (hlines : ∀ octets ∈ s.net.lines, octets = []) :
    ∀ octets ∈ (StoreCall.run calls s).net.lines, octets = [] := by
  let Silent (t : Client (Traced ν)) : Prop :=
    t.config = s.config ∧ t.connection = none ∧ ∀ octets ∈ t.net.lines, octets = []
  have hstep (call : StoreCall) (t : Client (Traced ν)) (ht : Silent t) :
      Silent (call.perform t).2 := by
    obtain ⟨hconfig, hnone, hempty⟩ := ht
    refine ⟨(config_perform call t).trans hconfig, ?_⟩
    by_cases hcall : call = .connect
    · subst hcall
      obtain ⟨hclosed, hsame | hnew⟩ := connect_long (s := t) (by rwa [hconfig])
      · exact ⟨hclosed, fun octets hoctets => hempty octets (hsame ▸ hoctets)⟩
      · refine ⟨hclosed, fun octets hoctets => ?_⟩
        have hoctets : octets ∈ t.net.lines ++ [[]] := hnew ▸ hoctets
        rcases List.mem_append.1 hoctets with hold | hlast
        · exact hempty octets hold
        · exact List.mem_singleton.1 hlast
    · have heffect := perform_effect call t
      generalize (call.perform t).1 = result, (call.perform t).2 = t' at heffect
      cases heffect with
      | silent _ _ hsame _ hconnection =>
        refine ⟨?_, fun octets hoctets => hempty octets (hsame ▸ hoctets)⟩
        rcases hconnection with hclosed | hkept
        · exact hclosed
        · exact hkept.trans hnone
      | opened hconnect => exact absurd hconnect hcall
      | sent _ _ hc =>
        rw [hnone] at hc
        cases hc
  exact (StoreCall.run_keeps hstep calls (show Silent s from ⟨rfl, hs, hlines⟩)).2.2

end Client

end

/-- What a client has sent says which calls were made. On each connection stand the frames of the
requests made there that could be written, in their order and with no flags, and each is read as its
call; only the last can be cut short, where that call has failed on the connection. The first call
is the `connect` that opened the connection, whose frame is the greeting with the whole tag; if the
tag is too long for its field, nothing is ever sent. The ids of the frames ascend over all
connections, as long as ids are not used up. -/
theorem outgoing_frames {ν : Type} [Network ν] (config : ClientConfig) (net : ν) (cut : Nat → Nat)
    (calls : List StoreCall) :
    let fresh := Client.traced config net cut
    let history := StoreCall.results calls fresh
    let lines := (StoreCall.run calls fresh).net.lines
    let tag := Text.utf8 config.tag
    history = StoreCall.results calls ({ config, net } : Client ν) ∧
    (∀ calls ∈ conversations history, Opened calls) ∧
    ∃ ts : List (Transcript config),
      ts.map (·.calls) = conversations history ∧ ts.map (·.octets) = lines ∧
      (if tag.length < 2 ^ 16 then
        ∀ t ∈ ts, ∃ greeting rest, t.frames = greeting :: rest ∧ greeting.Asks config .connect
      else ∀ octets ∈ lines, octets = []) ∧
      ((conversations history).flatten.length < 2 ^ 64 → (requestIds ts).Pairwise (· < ·)) := by
  intro fresh history lines tag
  have hstart : Told config fresh [] [] := by
    refine ⟨rfl, ⟨rfl, rfl, fun _ => ⟨Nat.zero_le _, nofun, .nil⟩⟩, nofun⟩
  obtain ⟨ts, -, hrecorded, -⟩ := told_run calls hstart
  refine ⟨(Traced.view.results_client calls fresh).symm, ?_, ts, hrecorded.calls,
    hrecorded.octets, ?_, fun hcount => (hrecorded.ids hcount).ascending⟩
  · exact fun calls hcalls => (opened_conversations (P := fun _ => True) (fun _ _ => trivial)
      calls hcalls).1
  · split
    · rename_i htag
      intro t ht
      have hcalls : t.calls ∈ conversations history := by
        rw [← show ts.map (·.calls) = conversations history from hrecorded.calls]
        exact List.mem_map_of_mem ht
      obtain ⟨⟨result, rest, hopens, -⟩, hwritable⟩ :=
        opened_conversations (Client.writable_results calls htag) t.calls hcalls
      have hfirst : MadeCall.writable (.connect, result) = true :=
        hwritable _ (by rw [hopens]; exact List.mem_cons_self) rfl
      have hasks := t.asks
      rw [hopens, List.filter_cons_of_pos hfirst] at hasks
      cases hframes : t.frames with
      | nil =>
        rw [hframes] at hasks
        cases hasks
      | cons greeting frames =>
        rw [hframes] at hasks
        exact ⟨greeting, frames, rfl, (List.forall₂_cons.1 hasks).1⟩
    · rename_i htag
      exact Client.lines_long calls (Nat.not_lt.1 htag) rfl nofun

/-- A network that answers everything with twenty octets, and fails at its third write. -/
structure Brittle where
  writes : Nat := 0

instance : Network Brittle where
  Connection := Unit
  dial _ net := (.done (), net)
  write _ _ net := (if net.writes = 2 then .fault .brokenPipe else .done (), ⟨net.writes + 1⟩)
  read _ count net :=
    (.done (if count = headerSize then Header.encode ⟨20, MessageType.createContext.code, 0, 0⟩
      else List.replicate count 0), net)
  hangUp _ net := net

namespace Sample

def brittle : Client (Traced Brittle) := .traced Client.Sample.config {} fun _ => 5

def brittleCalls : List StoreCall := [.connect, .create 7, .head 3, .connect, .fork 9]

end Sample

/-- The third frame of the first connection is cut short, and the second connection is whole. -/
theorem brittle_frames :
    (conversations (StoreCall.results Sample.brittleCalls Sample.brittle)).map (·.map (·.1)) =
      [[.connect, .create 7, .head 3], [.connect, .fork 9]] ∧
    (StoreCall.run Sample.brittleCalls Sample.brittle).net.lines.map (·.length) =
      [32 + 24 + 5, 32 + 24] ∧
    (conversations (StoreCall.results Sample.brittleCalls Sample.brittle)).flatten.length < 2 ^ 64 ∧
    ∃ ts : List (Transcript Client.Sample.config),
      ts.map (·.calls) = conversations (StoreCall.results Sample.brittleCalls Sample.brittle) ∧
      ts.map (·.octets) = (StoreCall.run Sample.brittleCalls Sample.brittle).net.lines ∧
      (requestIds ts).Pairwise (· < ·) := by
  have hcount : (conversations
      (StoreCall.results Sample.brittleCalls Sample.brittle)).flatten.length < 2 ^ 64 := by
    decide +kernel
  obtain ⟨-, -, ts, hcalls, hoctets, -, hids⟩ :=
    outgoing_frames Client.Sample.config ({} : Brittle) (fun _ => 5) Sample.brittleCalls
  exact ⟨by decide +kernel, by decide +kernel, hcount, ts, hcalls, hoctets, hids hcount⟩

end SessionRecorder
