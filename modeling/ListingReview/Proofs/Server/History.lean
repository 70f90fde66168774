import ListingReview.Proofs.Server.Counting
import ListingReview.Proofs.Server.Offline

/-! # Server: histories

A history is what happens to a server from its start on, with the answers that it gives. Three
things tell how many decisions there were: the answers themselves, the tally, and what monitoring is
shown. They agree after every history (`history_counts`), as every event either answers a submission
with a decision, which it counts once, or counts nothing (`handle_cases`). -/

namespace ListingReview.Server

open Http (Body Request Response)

/-! ### Histories -/

/-- An event and what is answered to it. -/
structure Exchange where
  event : Event
  answer : Option Response

/-- The state after events. -/
def after (policy : Policy) (state : State) : List Event → State
  | [] => state
  | event :: events => after policy (handle policy state event).2 events

/-- Events with what is answered to them. -/
def exchanges (policy : Policy) (state : State) : List Event → List Exchange
  | [] => []
  | event :: events =>
    ⟨event, (handle policy state event).1⟩ :: exchanges policy (handle policy state event).2 events

/-- The status that a document of a decision shows. -/
def shownStatus? : Body → Option Status
  | .json (.object members) =>
    match members.lookup "status" with
    | some (.text name) => Status.all.find? fun status => status.name == name
    | _ => none
  | _ => none

namespace Exchange

/-- A submission was posted and answered with 200. -/
def isDecided (exchange : Exchange) : Bool :=
  match exchange.event, exchange.answer with
  | .request request, some response =>
    request.method == "POST" && request.path == "/moderations/listings" && response.status == 200
  | _, _ => false

/-- A submission was posted and answered with 200 and a decision of the status. -/
def decides (status : Status) (exchange : Exchange) : Bool :=
  exchange.isDecided &&
    exchange.answer.any fun response => shownStatus? response.body == some status

end Exchange

/-- What an event sets the readiness to. -/
def Event.ready? : Event → Option Bool
  | .readiness ready => some ready
  | .request _ => none

/-- What the readiness was last set to; before that it is as given. -/
def lastReady (ready : Bool) (events : List Event) : Bool :=
  (events.filterMap Event.ready?).getLast?.getD ready

/-! ### One event -/

theorem shownStatus?_document (decision : Decision) :
    shownStatus? (.json decision.document) = some decision.status := by
  have hname : shownStatus? (.json decision.document) =
      Status.all.find? fun status => status.name == decision.status.name := rfl
  rw [hname]
  rcases decision.status with _ | _ | _ <;> decide

/-- What comes to a decision is answered with it and counted; what does not is not answered with
200 and not counted. -/
theorem moderate_cases (policy : Policy) (request : Request) (count : Count) :
    (∃ decision, moderate policy request count =
        (.json 200 decision.document, Recorder.counting.record count decision)) ∨
      ∃ failure : Failure, failure.status ≠ 200 ∧
        moderate policy request count = (failed failure, count) := by
  rw [moderate]
  rcases readBody request with fault | submission
  · refine Or.inr ⟨.body fault, ?_, rfl⟩
    rcases fault with _ | _ | fault
    · decide
    · decide
    · simp only [Failure.status, BodyFault.status]
      split <;> decide
  · simp only [Desk.reviewSubmission_eq]
    rcases submission.check with violation | listing
    · exact Or.inr ⟨.review (.invalid violation), Nat.ne_of_beq_eq_false rfl, rfl⟩
    · exact Or.inl ⟨_, rfl⟩

theorem path_of_listings {path : String} (h : route? path = some .listings) :
    path = "/moderations/listings" := by
  obtain ⟨before, behind, heq, -⟩ := List.lookup_eq_some_iff.mp h
  have hmem : (path, Route.listings) ∈ before ++ (path, Route.listings) :: behind := by simp
  rw [← heq] at hmem
  simpa using hmem

/-- Nothing but posting a submission leads to the desk. -/
theorem respond_of_notPosted (policy : Policy) {request : Request} (state : State)
    (h : ¬ (request.method = "POST" ∧ request.path = "/moderations/listings")) :
    (respond policy request state).2 = state := by
  rw [respond]
  split
  · rfl
  · next hroute =>
    rw [if_neg fun hmethod => h ⟨hmethod, path_of_listings hroute⟩]
  · split_ifs <;> rfl

theorem handle_request (policy : Policy) (state : State) (request : Request) :
    handle policy state (.request request) =
      (some (respond policy request state).1, (respond policy request state).2) := rfl

/-- **One event** is either a submission that is answered with a decision, and the decision is
counted, or nothing is counted. -/
theorem handle_cases (policy : Policy) (state : State) (event : Event) :
    (∃ decision : Decision, (handle policy state event).1 = some (.json 200 decision.document) ∧
        Exchange.isDecided ⟨event, (handle policy state event).1⟩ = true ∧
        (handle policy state event).2.count = Recorder.counting.record state.count decision) ∨
      Exchange.isDecided ⟨event, (handle policy state event).1⟩ = false ∧
        (handle policy state event).2.count = state.count := by
  rcases event with ready | request
  · exact Or.inr ⟨rfl, rfl⟩
  · rw [handle_request]
    by_cases h : request.method = "POST" ∧ request.path = "/moderations/listings"
    · rw [respond_posted policy state h.1 h.2]
      rcases moderate_cases policy request state.count with
        ⟨decision, hmoderate⟩ | ⟨failure, hstatus, hmoderate⟩
      · rw [hmoderate]
        refine Or.inl ⟨decision, rfl, ?_, rfl⟩
        simp [Exchange.isDecided, h, Response.json]
      · rw [hmoderate]
        refine Or.inr ⟨?_, rfl⟩
        simp [Exchange.isDecided, failed, Response.json, hstatus]
    · rw [respond_of_notPosted policy state h]
      refine Or.inr ⟨?_, rfl⟩
      simp only [Exchange.isDecided, Bool.and_eq_false_iff, beq_eq_false_iff_ne]
      exact Or.inl (not_and_or.mp h)

theorem decides_of_answer {event : Event} {answer : Option Response} {decision : Decision}
    (hanswer : answer = some (.json 200 decision.document))
    (hdecided : Exchange.isDecided ⟨event, answer⟩ = true) (status : Status) :
    Exchange.decides status ⟨event, answer⟩ = (decision.status == status) := by
  rw [Exchange.decides, hdecided]
  subst hanswer
  exact congrArg (· == some status) (shownStatus?_document decision)

/-! ### All events -/

variable (policy : Policy)

/-- **The count after events** is that before them and what they have been answered. -/
theorem holds_after : ∀ (events : List Event) {state : State} {number : Status → Nat},
    state.count.Holds number →
      (after policy state events).count.Holds fun status =>
        number status + (exchanges policy state events).countP (Exchange.decides status)
  | [], _, _, h => h
  | event :: events, state, number, h => by
    rcases handle_cases policy state event with
      ⟨decision, hanswer, hdecided, hcount⟩ | ⟨hno, hcount⟩
    · have ih := holds_after events (hcount ▸ h.record decision)
      refine Eq.mp (congrArg _ (funext fun status => ?_)) ih
      -- one more for the status of the decision, on either side
      rw [exchanges, List.countP_cons, decides_of_answer hanswer hdecided]
      by_cases hs : status = decision.status
      · rw [hs, oneMore_self, beq_self_eq_true, if_pos rfl]
        omega
      · rw [oneMore_of_ne number hs, beq_eq_false_iff_ne.mpr (Ne.symm hs)]
        rfl
    · have ih := holds_after events (hcount ▸ h)
      refine Eq.mp (congrArg _ (funext fun status => ?_)) ih
      rw [exchanges, List.countP_cons, Exchange.decides, hno]
      rfl

/-- Every decision has one status. -/
theorem countP_isDecided : ∀ (events : List Event) (state : State),
    (exchanges policy state events).countP Exchange.isDecided =
      (exchanges policy state events).countP (Exchange.decides .approved) +
        (exchanges policy state events).countP (Exchange.decides .flagged) +
        (exchanges policy state events).countP (Exchange.decides .rejected)
  | [], _ => rfl
  | event :: events, state => by
    have ih := countP_isDecided events (handle policy state event).2
    simp only [exchanges, List.countP_cons]
    rcases handle_cases policy state event with ⟨decision, hanswer, hdecided, -⟩ | ⟨hno, -⟩
    · simp only [decides_of_answer hanswer hdecided, hdecided]
      rcases decision.status with _ | _ | _ <;> simp <;> omega
    · simp only [Exchange.decides, hno, Bool.false_and]
      exact ih

theorem isDecided_answer : ∀ (events : List Event) (state : State),
    ∀ exchange ∈ exchanges policy state events, exchange.isDecided = true →
      ∃ decision : Decision, exchange.answer = some (.json 200 decision.document) ∧
        ∀ status, exchange.decides status = (decision.status == status)
  | event :: events, state, exchange, hmem, hdecided => by
    rcases List.mem_cons.mp hmem with rfl | hmem
    · rcases handle_cases policy state event with ⟨decision, hanswer, -, -⟩ | ⟨hno, -⟩
      · exact ⟨decision, hanswer, decides_of_answer hanswer hdecided⟩
      · rw [hno] at hdecided
        exact absurd hdecided Bool.false_ne_true
    · exact isDecided_answer events _ exchange hmem hdecided

theorem ready_after : ∀ (events : List Event) (state : State),
    (after policy state events).ready = lastReady state.ready events
  | [], _ => rfl
  | .readiness ready :: events, state => by
    have hcons : (Event.readiness ready :: events).filterMap Event.ready? =
        ready :: events.filterMap Event.ready? := List.filterMap_cons_some rfl
    rw [after, ready_after events, lastReady, lastReady, hcons, List.getLast?_cons]
    rfl
  | .request request :: events, state => by
    have hready : (handle policy state (.request request)).2.ready = state.ready := by
      rw [handle_request]
      by_cases h : request.method = "POST" ∧ request.path = "/moderations/listings"
      · rw [respond_posted policy state h.1 h.2]
      · rw [respond_of_notPosted policy state h]
    rw [after, ready_after events, hready, lastReady, lastReady, List.filterMap_cons_none rfl]

/-! ### What is shown -/

theorem respond_viewed {request : Request} {route : Route} (state : State)
    (hmethod : request.method = "GET") (hroute : route? request.path = some route)
    (hne : route ≠ .listings) : (respond policy request state).1 = view state route := by
  rw [respond, hroute]
  rcases route with _ | _ | _ | _ | _
  · exact absurd rfl hne
  all_goals simp only [hmethod, if_true]

section Viewed

variable {request : Request} (state : State) (hmethod : request.method = "GET")
include hmethod

theorem respond_tally (hpath : request.path = "/metrics/decisions") :
    (respond policy request state).1 = .json 200 state.count.tally.document :=
  respond_viewed policy state hmethod (by rw [hpath]; decide : route? request.path = some .tally)
    (by decide)

theorem respond_metrics (hpath : request.path = "/metrics") :
    (respond policy request state).1 =
      ⟨200, some "text/plain; version=0.0.4", .text state.count.series.text⟩ :=
  respond_viewed policy state hmethod (by rw [hpath]; decide : route? request.path = some .metrics)
    (by decide)

theorem respond_ready (hpath : request.path = "/ready") :
    (respond policy request state).1.status = 200 ↔ state.ready = true := by
  have hroute : route? request.path = some .ready := by
    rw [hpath]
    decide
  rw [respond_viewed policy state hmethod hroute (by decide), view]
  rcases state.ready with _ | _ <;> simp [Response.json]

end Viewed

/-- The samples of a count are those of the numbers that are not nought. -/
theorem sampleLines_perm {count : Count} {number : Status → Nat} (h : count.Holds number)
    (hlt : ∀ status, number status < 2 ^ 64) :
    (sampleLines count.series.text).Perm
      ((Status.all.filter fun status => number status ≠ 0).map fun status =>
        ("moderation_decisions_total\x7bstatus=\"" ++ status.name ++ "\"\x7d "
          ++ String.ofList (Text.decimal (number status))).toList) := by
  rw [sampleLines_text]
  refine (h.series_perm.map _).trans (List.Perm.of_eq ?_)
  rw [List.map_map]
  refine List.map_congr_left fun status _ => ?_
  simp only [Function.comp_apply, Series.sample, UInt64.toNat_ofNat', Nat.mod_eq_of_lt (hlt status)]
  rfl

/-- **The three views of the decisions agree** after every history. Each counter of the tally is the
number of submissions that were answered with a decision of its status, and the total is their sum;
this is what `/metrics/decisions` and `/metrics` show, the latter in one line for each status that
has been decided. `/ready` shows what readiness was last set to. Whatever happens next, if it is not
a submission that is answered with 200, leaves the count as it is. -/
theorem history_counts (events : List Event)
    (h : (exchanges policy {} events).countP Exchange.isDecided < 2 ^ 64) :
    let state := after policy {} events
    let number status := (exchanges policy {} events).countP (Exchange.decides status)
    (∀ exchange ∈ exchanges policy {} events, exchange.isDecided = true →
        ∃ decision : Decision, exchange.answer = some (.json 200 decision.document) ∧
          ∀ status, exchange.decides status = (decision.status == status)) ∧
      (∀ status, (state.count.tally.get status).toNat = number status) ∧
      state.count.tally.total.toNat = number .approved + number .flagged + number .rejected ∧
      (∀ request : Request, request.method = "GET" → request.path = "/metrics/decisions" →
        (respond policy request state).1 = .json 200 (.object
          [("approved", .integer (number .approved)), ("flagged", .integer (number .flagged)),
            ("rejected", .integer (number .rejected)),
            ("total", .integer
              (number .approved + number .flagged + number .rejected : Nat))])) ∧
      (∀ request : Request, request.method = "GET" → request.path = "/metrics" →
        ∃ text, (respond policy request state).1 =
            ⟨200, some "text/plain; version=0.0.4", .text text⟩ ∧
          (sampleLines text).Perm
            ((Status.all.filter fun status => number status ≠ 0).map fun status =>
              ("moderation_decisions_total\x7bstatus=\"" ++ status.name ++ "\"\x7d "
                ++ String.ofList (Text.decimal (number status))).toList)) ∧
      (∀ request : Request, request.method = "GET" → request.path = "/ready" →
        ((respond policy request state).1.status = 200 ↔ lastReady false events = true)) ∧
      ∀ event, Exchange.isDecided ⟨event, (handle policy state event).1⟩ = false →
        (handle policy state event).2.count = state.count := by
  intro state number
  have hsum : number .approved + number .flagged + number .rejected < 2 ^ 64 :=
    countP_isDecided policy events {} ▸ h
  have hholds : state.count.Holds number := by
    have hstart : Count.Holds (State.count {}) fun _ => 0 := Count.holds_zero
    have := holds_after policy events hstart
    simpa only [Nat.zero_add] using this
  have hlt : ∀ status, number status < 2 ^ 64 := by
    rintro (_ | _ | _) <;> omega
  have hget : ∀ status, (state.count.tally.get status).toNat = number status := fun status => by
    rw [hholds.tally, UInt64.toNat_ofNat', Nat.mod_eq_of_lt (hlt status)]
  refine ⟨isDecided_answer policy events {}, hget, hholds.total hsum, ?_, ?_, ?_, ?_⟩
  · intro request hmethod hpath
    rw [respond_tally policy state hmethod hpath, Tally.document, ← hholds.total hsum, ← hget,
      ← hget, ← hget]
    rfl
  · intro request hmethod hpath
    exact ⟨_, respond_metrics policy state hmethod hpath, sampleLines_perm hholds hlt⟩
  · intro request hmethod hpath
    rw [respond_ready policy state hmethod hpath,
      show state.ready = lastReady false events from ready_after policy events {}]
  · intro event hno
    rcases handle_cases policy state event with ⟨decision, -, hdecided, -⟩ | ⟨-, hcount⟩
    · rw [hno] at hdecided
      exact absurd hdecided Bool.false_ne_true
    · exact hcount

/-- A submission with a title. -/
def titledSubmission (title : String) : String :=
  "\x7b\"listingId\":\"l\",\"sellerId\":\"s\",\"reason\":\"r\",\"title\":\"" ++ title ++ "\"\x7d"

/-- A server is set to be ready, reviews a harmless listing and a banned one, and is sent a
submission that breaks off. -/
def firstEvents : List Event :=
  [.readiness true, .request (.submitting (titledSubmission "a chair")),
    .request (.submitting (titledSubmission "a firearm")), .request (.submitting "\x7b\"title\":")]

/-- It has counted one decision of either kind. -/
theorem history_of_firstEvents :
    (exchanges .standard {} firstEvents).countP Exchange.isDecided < 2 ^ 64 ∧
      ((after .standard {} firstEvents).count.tally.get .approved).toNat = 1 ∧
      ((after .standard {} firstEvents).count.tally.get .rejected).toNat = 1 ∧
      (after .standard {} firstEvents).count.tally.total.toNat = 2 := by
  have hnumber : ∀ status ∈ Status.all,
      (exchanges .standard {} firstEvents).countP (Exchange.decides status) =
        if status = .flagged then 0 else 1 := by decide +kernel
  have hlt : (exchanges .standard {} firstEvents).countP Exchange.isDecided < 2 ^ 64 :=
    List.countP_le_length.trans_lt (by decide)
  obtain ⟨-, hget, htotal, -⟩ := history_counts .standard firstEvents hlt
  simp only [hnumber .approved (by decide), hnumber .flagged (by decide),
    hnumber .rejected (by decide)] at htotal
  exact ⟨hlt, (hget _).trans (hnumber _ (by decide)), (hget _).trans (hnumber _ (by decide)),
    htotal⟩

end ListingReview.Server
