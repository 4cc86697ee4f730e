import Uvw.Foundation.Ledger
import Uvw.Foundation.TransitionSystem
import Uvw.Resource

/-!
# Lookups of addresses and the lists they produce

`get_addr_info_req` wraps the list libuv produces for a lookup in a `unique_ptr` that frees it.  The
asynchronous methods wrap what libuv hands to the callback; the synchronous ones wrap `req->addrinfo`
whatever became of the call.  libuv clears that field when it initialises the request, after it has
checked the arguments, so a lookup that is rejected leaves the list of an earlier one in it.

`AddrInfoReq` follows one request through its lookups, and `addrinfo_one_owner_iff` says for which runs
every list gets exactly one owner.
-/

namespace Uvw

open TransitionSystem

/-- The lookups of `get_addr_info_req`; the hints are passed on unread. -/
inductive Lookup
  | nodeAddrInfo (node : String)
  | serviceAddrInfo (service : String)
  | addrInfo (node service : String)
deriving DecidableEq, Repr

/-- The `node` and `service` arguments of `uv_getaddrinfo`, null or a string. -/
def Lookup.args : Lookup → Option String × Option String
  | nodeAddrInfo node => (some node, none)
  | serviceAddrInfo service => (none, some service)
  | addrInfo node service => (some node, some service)

/-- What `uv_getaddrinfo` makes of a lookup. -/
inductive LookupOutcome
  /-- Rejected while the arguments are checked, before the request is initialised. -/
  | rejected (code : Int) (nonzero : code ≠ 0)
  | failed (code : Int) (nonzero : code ≠ 0)
  | found
deriving DecidableEq

/-- The code a lookup returns or is completed with. -/
def LookupOutcome.code : LookupOutcome → Int
  | rejected code _ => code
  | failed code _ => code
  | found => 0

/-- The pair a synchronous lookup returns, or the event an asynchronous one publishes: whether it
succeeded and the list in its `unique_ptr`. -/
structure LookupAnswer where
  ok : Bool
  data : Option ℕ
deriving DecidableEq, Repr

/-- A `get_addr_info_req` and the lists libuv has produced for it; a list is released when it is
handed to a `unique_ptr`. -/
structure AddrInfoReq where
  resource : Resource
  /-- `req->addrinfo`. -/
  addrinfo : Option ℕ
  inFlight : Bool
  lists : Ledger
  /-- What libuv was asked for. -/
  asked : List (Option String × Option String)
  answers : List LookupAnswer

/-- What a program and libuv can do with the request. -/
inductive LookupAction
  /-- One of the `*_sync` methods. -/
  | sync (l : Lookup) (out : LookupOutcome)
  /-- One of the others, which libuv accepts when `code` is `0`. -/
  | async (l : Lookup) (code : Int)
  /-- libuv completes the lookup in flight: with a list, or with a nonzero status and none. -/
  | complete (status : Int)
deriving DecidableEq

namespace AddrInfoReq

/-- A new request; its `uv_getaddrinfo_t` is zeroed. -/
def create (owner : ℕ) : AddrInfoReq where
  resource := .construct (.request .getAddrInfo) owner
  addrinfo := none
  inFlight := false
  lists := .empty
  asked := []
  answers := []

variable (s : AddrInfoReq)

/-- libuv stores a new list in the request. -/
def produce : AddrInfoReq :=
  { s with addrinfo := some s.lists.issued, lists := s.lists.issue }

/-- `uv_getaddrinfo` without a callback. -/
def uvGetaddrinfo (args : Option String × Option String) (out : LookupOutcome) : AddrInfoReq :=
  let s := { s with asked := s.asked ++ [args] }
  match out with
  | .rejected .. => s
  | .failed .. => { s with addrinfo := none }
  | .found => s.produce

/-- A list, if any, is wrapped in a `unique_ptr` and handed out. -/
def hand (answer : LookupAnswer) : AddrInfoReq :=
  { s with lists := s.lists.releaseAny answer.data, answers := s.answers ++ [answer] }

/-- `get_addr_info_req::node_addr_info_sync`, to which all synchronous lookups come down. -/
def nodeAddrInfoSync (args : Option String × Option String) (out : LookupOutcome) : AddrInfoReq :=
  let s := s.uvGetaddrinfo args out
  s.hand { ok := decide (out.code = 0), data := s.addrinfo }

/-- `get_addr_info_req::node_addr_info`, to which all asynchronous lookups come down. -/
def nodeAddrInfo (args : Option String × Option String) (code : Int) : AddrInfoReq :=
  let s := { s with asked := s.asked ++ [args] }
  let s := if code = 0 then { s with addrinfo := none, inFlight := true } else s
  { s with resource := s.resource.leakIf code }

/-- `get_addr_info_req::addr_info_callback`: an `error_event`, or an `addr_info_event` with the list. -/
def addrInfoCallback (status : Int) (res : Option ℕ) : AddrInfoReq :=
  let s := { s with resource := s.resource.selfReset }
  if status ≠ 0 then s.hand { ok := false, data := none } else s.hand { ok := true, data := res }

/-- libuv completes a lookup. -/
def complete (status : Int) : AddrInfoReq :=
  let s := { s with inFlight := false }
  if status ≠ 0 then s.addrInfoCallback status none
  else
    let s := s.produce
    s.addrInfoCallback status s.addrinfo

/-- One action; lookups are made one at a time. -/
def step : LookupAction → Option AddrInfoReq
  | .sync l out => if s.inFlight then none else some (s.nodeAddrInfoSync l.args out)
  | .async l code => if s.inFlight then none else some (s.nodeAddrInfo l.args code)
  | .complete status => if s.inFlight then some (s.complete status) else none

/-- What is expected of the lists: each has been handed out in exactly one `unique_ptr`, and a lookup
that failed has handed out none. -/
structure OneOwner : Prop where
  handed : ∀ i < s.lists.issued, s.lists.released.count i = 1
  failed : ∀ a ∈ s.answers, a.ok = false → a.data = none

/-- A synchronous lookup that is rejected finds no list in the request. -/
def RejectedWithoutList : LookupAction → Prop
  | .sync _ (.rejected ..) => s.addrinfo = none
  | _ => True

/-- What holds of the request as long as that is so. -/
structure Inv : Prop where
  sound : s.lists.Sound
  handed : ∀ i, ¬ s.lists.Outstanding i
  stored : ∀ i, s.addrinfo = some i → i < s.lists.issued
  failed : ∀ a ∈ s.answers, a.ok = false → a.data = none

/-- What holds of it while the list just produced waits to be handed out. -/
structure Holding : Prop where
  sound : s.lists.Sound
  outstanding : ∀ i, s.lists.Outstanding i ↔ s.addrinfo = some i
  failed : ∀ a ∈ s.answers, a.ok = false → a.data = none

variable {s} {s' : AddrInfoReq} {a : LookupAction} {answer : LookupAnswer}

lemma inv_create (owner : ℕ) : (create owner).Inv where
  sound := Ledger.sound_empty
  handed i h := Nat.not_lt_zero i h.1
  stored _ h := nomatch h
  failed _ h := absurd h List.not_mem_nil

lemma Inv.oneOwner (h : s.Inv) : s.OneOwner where
  handed i hi := h.sound.count_eq_one hi (h.handed i)
  failed := h.failed

/-- What holds does not depend on the other members. -/
lemma Inv.frame (h : s.Inv) (x : Resource) (f : Bool) (asked : List (Option String × Option String)) :
    Inv { s with resource := x, inFlight := f, asked } :=
  ⟨h.sound, h.handed, h.stored, h.failed⟩

/-- Clearing `req->addrinfo` loses nothing. -/
lemma Inv.clear (h : s.Inv) : Inv { s with addrinfo := none } :=
  ⟨h.sound, h.handed, nofun, h.failed⟩

lemma Inv.produce (h : s.Inv) : s.produce.Holding where
  sound := h.sound.issue
  outstanding i := by
    show s.lists.issue.Outstanding i ↔ some s.lists.issued = some i
    rw [h.sound.outstanding_issue, Option.some.injEq, eq_comm (a := s.lists.issued)]
    exact or_iff_right (h.handed i)
  failed := h.failed

/-- Adding an answer that is right leaves the answers right. -/
lemma failed_append (h : ∀ a ∈ s.answers, a.ok = false → a.data = none)
    (hanswer : answer.ok = false → answer.data = none) :
    ∀ a ∈ (s.hand answer).answers, a.ok = false → a.data = none := by
  intro a ha
  rcases List.mem_append.mp ha with ha | ha
  · exact h a ha
  · rw [List.mem_singleton.mp ha]
    exact hanswer

/-- The list just produced is handed out. -/
lemma Holding.hand (h : s.Holding) (hok : answer.ok = true) (hdata : answer.data = s.addrinfo) :
    (s.hand answer).Inv where
  sound := h.sound.releaseAny fun i hi => (h.outstanding i).mpr (hdata.symm.trans hi)
  handed i hi := by
    have hmem : (s.lists.releaseAny answer.data).Outstanding i := hi
    rw [hdata] at hmem
    cases hlist : s.addrinfo with
    | none =>
      rw [hlist] at hmem
      have hsome : s.addrinfo = some i := (h.outstanding i).mp hmem
      rw [hlist] at hsome
      cases hsome
    | some j =>
      rw [hlist] at hmem
      obtain ⟨hout, hne⟩ := Ledger.outstanding_release.mp hmem
      have hsome : s.addrinfo = some i := (h.outstanding i).mp hout
      rw [hlist, Option.some.injEq] at hsome
      exact hne hsome.symm
  stored i hi := by
    have hout : s.lists.Outstanding i := (h.outstanding i).mpr hi
    cases hdata' : answer.data with
    | none => simpa [AddrInfoReq.hand, hdata', Ledger.releaseAny] using hout.1
    | some j => simpa [AddrInfoReq.hand, hdata', Ledger.releaseAny] using hout.1
  failed := failed_append h.failed fun hfalse => by
    rw [hok] at hfalse
    cases hfalse

/-- An answer without a list hands out nothing. -/
lemma Inv.hand_none (h : s.Inv) (hdata : answer.data = none) : (s.hand answer).Inv := by
  have hlists : (s.hand answer).lists = s.lists := by
    show s.lists.releaseAny answer.data = s.lists
    rw [hdata]
    rfl
  refine ⟨?_, ?_, ?_, failed_append h.failed fun _ => hdata⟩
  · rw [hlists]
    exact h.sound
  · rw [hlists]
    exact h.handed
  · rw [hlists]
    exact h.stored

/-- **Step lemma**: rejections that find no list keep the invariant. -/
lemma inv_step (h : s.Inv) (hC : s.RejectedWithoutList a) (hstep : s.step a = some s') : s'.Inv := by
  cases a with
  | sync l out =>
    simp only [step, Option.ite_none_left_eq_some, Option.some.injEq] at hstep
    obtain ⟨-, rfl⟩ := hstep
    have hasked := h.frame s.resource s.inFlight (s.asked ++ [l.args])
    cases out with
    | rejected code nonzero => exact hasked.hand_none hC
    | failed code nonzero => exact hasked.clear.hand_none rfl
    | found => exact hasked.produce.hand rfl rfl
  | async l code =>
    simp only [step, Option.ite_none_left_eq_some, Option.some.injEq] at hstep
    obtain ⟨-, rfl⟩ := hstep
    unfold nodeAddrInfo
    by_cases hcode : code = 0
    · simp only [hcode, if_true]
      exact h.clear.frame _ true _
    · simp only [hcode, if_false]
      exact h.frame _ s.inFlight _
  | complete status =>
    simp only [step, Option.ite_none_right_eq_some, Option.some.injEq] at hstep
    obtain ⟨-, rfl⟩ := hstep
    have hdone := h.frame s.resource.selfReset false s.asked
    unfold complete addrInfoCallback
    by_cases hstatus : status ≠ 0
    · simp only [hstatus, ne_eq, not_false_eq_true, if_true]
      exact hdone.hand_none rfl
    · simp only [hstatus, if_false]
      exact hdone.produce.hand rfl rfl

/-- A rejection that finds a list hands it out a second time. -/
lemma not_oneOwner_of_rejected {l : Lookup} {code : Int} {nonzero : code ≠ 0} (h : s.Inv)
    {i : ℕ} (hstored : s.addrinfo = some i) :
    ¬ (s.nodeAddrInfoSync l.args (.rejected code nonzero)).OneOwner := by
  intro hone
  have hlt : i < s.lists.issued := h.stored i hstored
  have hmem : i ∈ s.lists.released := by
    by_contra hnot
    exact h.handed i ⟨hlt, hnot⟩
  have hreleased : (s.nodeAddrInfoSync l.args (.rejected code nonzero)).lists.released =
      i :: s.lists.released := by
    show (s.lists.releaseAny s.addrinfo).released = _
    rw [hstored]
    rfl
  have hissued : (s.nodeAddrInfoSync l.args (.rejected code nonzero)).lists.issued =
      s.lists.issued := by
    show (s.lists.releaseAny s.addrinfo).issued = _
    rw [hstored]
    rfl
  have hcount := hone.handed i (by rw [hissued]; exact hlt)
  rw [hreleased, List.count_cons_self] at hcount
  have hpos : 0 < s.lists.released.count i := List.count_pos_iff.mpr hmem
  omega

/-- On the steps of the invariant the condition is exactly what the property needs. -/
lemma oneOwner_iff (h : s.Inv) (hstep : s.step a = some s') :
    s'.OneOwner ↔ s.RejectedWithoutList a := by
  constructor
  · intro hnext
    cases a with
    | sync l out =>
      cases out with
      | rejected code nonzero =>
        simp only [step, Option.ite_none_left_eq_some, Option.some.injEq] at hstep
        obtain ⟨-, rfl⟩ := hstep
        show s.addrinfo = none
        cases hstored : s.addrinfo with
        | none => rfl
        | some i => exact absurd hnext (not_oneOwner_of_rejected h hstored)
      | _ => trivial
    | _ => trivial
  · intro hC
    exact (inv_step h hC hstep).oneOwner

/-- **Which runs give every list one owner**: on a new request every list is handed out in exactly one
`unique_ptr` and a failed lookup hands out none, in every state of the run, exactly when no synchronous
lookup is rejected while `req->addrinfo` holds the list of an earlier one. -/
theorem addrinfo_one_owner_iff (owner : ℕ) (as : List LookupAction) :
    Visits step OneOwner (create owner) as ↔ Along step RejectedWithoutList (create owner) as :=
  visits_iff_along_of_invariant (I := Inv) (inv_create owner).oneOwner (inv_create owner)
    (fun _ _ _ h hC hstep => inv_step h hC hstep) (fun _ _ _ h hstep => oneOwner_iff h hstep)

/-- A lookup that succeeds, then one of the empty name, which libuv rejects: the list of the first is
handed out again. -/
theorem addrinfo_handed_out_twice :
    ¬ Visits step OneOwner (create 0)
      [.sync (.nodeAddrInfo "localhost") .found,
        .sync (.nodeAddrInfo "") (.rejected (-22) (by decide))] := by
  intro h
  have hlast := (h.2 _ rfl).2 _ rfl
  exact absurd (hlast.handed 0 (by decide)) (by decide)

end AddrInfoReq

end Uvw
