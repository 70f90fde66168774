import ListingReview.Proofs.Review.Outline
import ListingReview.Proofs.Server.Answers

/-! # Server: what came before

What is answered to a posted request does not depend on the state of the server (`respond_post`), so
a history may be taken in any order: every post is answered as it was, as many decisions of each
status are made (`countP_exchanges`), and as the count holds nothing but these numbers, it shows
the same but for the order of the lines (`Count.Holds.text_perm`). As the review looks at outlines
only, posts that differ elsewhere are answered alike as well (`post_answers_alike`). -/

namespace ListingReview

open Http (Request Response)

/-! ### One count and another of the same numbers -/

namespace Count.Holds

variable {count other : Count} {number : Status → Nat} (h : count.Holds number)
  (hother : other.Holds number)
include h hother

theorem tally_eq : count.tally = other.tally := by
  have hget : ∀ status, count.tally.get status = other.tally.get status := fun status => by
    rw [h.tally, hother.tally]
  rcases hcount : count.tally with ⟨approved, flagged, rejected⟩
  rcases hcount' : other.tally with ⟨approved', flagged', rejected'⟩
  rw [hcount, hcount'] at hget
  exact (Tally.mk.injEq ..).mpr ⟨hget .approved, hget .flagged, hget .rejected⟩

theorem text_perm : (count.series.text.toList.splitOn '\n').Perm
    (other.series.text.toList.splitOn '\n') := by
  have hperm := h.series_perm.trans hother.series_perm.symm
  rcases hseries : count.series with _ | ⟨entry, rest⟩
  · rw [hseries] at hperm
    rw [hperm.nil_eq]
  · rcases hseries' : other.series with _ | ⟨entry', rest'⟩
    · rw [hseries', hseries] at hperm
      exact absurd hperm.eq_nil (List.cons_ne_nil _ _)
    · rw [hseries, hseries'] at hperm
      rw [splitOn_text, splitOn_text]
      exact (((hperm.map Series.sample).cons _).map String.toList).append_right _

end Count.Holds

/-- A submission that passes the check is posted. -/
structure Http.Request.Brings (request : Request) (submission : Submission) (listing : Listing) :
    Prop where
  method : request.method = "POST"
  path : request.path = "/moderations/listings"
  read : Server.readBody request = .ok submission
  check : submission.check = .ok listing

namespace Server

/-- Something is posted, wherever to. -/
def Event.IsPost : Event → Prop
  | .readiness _ => False
  | .request posted => posted.method = "POST"

variable (policy : Policy)

/-! ### One event -/

theorem moderate_answer (request : Request) (count count' : Count) :
    (moderate policy request count).1 = (moderate policy request count').1 := by
  rcases hread : readBody request with fault | submission
  · rw [moderate_refused policy count hread, moderate_refused policy count' hread]
  · rw [moderate_read policy count hread, moderate_read policy count' hread]

/-- **A post is answered alike in all states.** -/
theorem respond_post {request : Request} (h : request.method = "POST") (state state' : State) :
    (respond policy request state).1 = (respond policy request state').1 := by
  rcases hroute : route? request.path with _ | _ | _ | _ | _ | _ <;> simp only [respond, hroute, h]
  case some.listings => exact moderate_answer policy request _ _
  -- all other routes refuse what is posted
  all_goals rfl

theorem handle_post {event : Event} (h : event.IsPost) (state state' : State) :
    (handle policy state event).1 = (handle policy state' event).1 := by
  rcases event with ready | request
  · exact h.elim
  · rw [handle_request, handle_request, respond_post policy h]

theorem isPost_of_isDecided {event : Event} {answer : Option Response}
    (h : Exchange.isDecided ⟨event, answer⟩ = true) : event.IsPost := by
  rcases event with ready | request
  · exact absurd h Bool.false_ne_true
  · rcases answer with _ | response
    · exact absurd h Bool.false_ne_true
    · simp only [Exchange.isDecided, Bool.and_eq_true, beq_iff_eq] at h
      exact h.1.1

theorem decides_handle (status : Status) (event : Event) (state state' : State) :
    Exchange.decides status ⟨event, (handle policy state event).1⟩ =
      Exchange.decides status ⟨event, (handle policy state' event).1⟩ := by
  by_cases hpost : event.IsPost
  · rw [handle_post policy hpost state state']
  · have hno : ∀ answer, Exchange.isDecided ⟨event, answer⟩ = false := fun answer =>
      Bool.eq_false_iff.mpr fun h => hpost (isPost_of_isDecided h)
    rw [Exchange.decides, Exchange.decides, hno, hno]
    rfl

/-! ### All events -/

theorem exists_handle : ∀ (events : List Event) (state : State),
    ∀ exchange ∈ exchanges policy state events,
      ∃ met, exchange.answer = (handle policy met exchange.event).1
  | event :: events, state, exchange, hmem => by
    rcases List.mem_cons.mp hmem with rfl | hmem
    · exact ⟨state, rfl⟩
    · exact exists_handle events _ exchange hmem

/-- The decisions of a history are those of its events on their own. -/
theorem countP_exchanges (status : Status) : ∀ (events : List Event) (state : State),
    (exchanges policy state events).countP (Exchange.decides status) =
      events.countP fun event => Exchange.decides status ⟨event, (handle policy {} event).1⟩
  | [], _ => rfl
  | event :: events, state => by
    rw [exchanges, List.countP_cons, List.countP_cons, countP_exchanges status events,
      decides_handle policy status event state {}]

theorem holds_perm {events events' : List Event} (h : events.Perm events') {state : State}
    {number : Status → Nat} (hstart : state.count.Holds number) :
    ∃ number', (after policy state events).count.Holds number' ∧
      (after policy state events').count.Holds number' := by
  refine ⟨_, holds_after policy events hstart, ?_⟩
  have hcount : ∀ status, (exchanges policy state events).countP (Exchange.decides status) =
      (exchanges policy state events').countP (Exchange.decides status) := fun status => by
    rw [countP_exchanges, countP_exchanges, h.countP_eq]
  simp only [hcount]
  exact holds_after policy events' hstart

/-! ### Answers that are alike -/

theorem respond_brings {request : Request} {submission : Submission} {listing : Listing}
    (h : request.Brings submission listing) (state : State) :
    (respond policy request state).1 = .json 200 (policy.review listing).document := by
  rw [respond_posted policy state h.method h.path, moderate_read policy _ h.read, Policy.answer,
    h.check]

/-- **Answers to posts depend on what matters in them alone.** In whatever states, submissions that
are alike and pass the check are answered with 200 and one decision. So a server that has been
through any past may be sent events in one order or another: a post has the same answer in both, the
tally is the same at the end, and monitoring is shown the same lines. -/
theorem post_answers_alike :
    (∀ (state state' : State) (request request' : Request) (submission submission' : Submission)
      (listing listing' : Listing), request.Brings submission listing →
        request'.Brings submission' listing' → submission.Alike submission' →
          (respond policy request state).1 = .json 200 (policy.review listing).document ∧
            (respond policy request' state').1 = .json 200 (policy.review listing).document) ∧
      ∀ past events events' : List Event, events.Perm events' →
        let start := after policy {} past
        (∀ exchange ∈ exchanges policy start events, ∀ exchange' ∈ exchanges policy start events',
          exchange.event.IsPost → exchange'.event = exchange.event →
            exchange'.answer = exchange.answer) ∧
          (after policy start events).count.tally = (after policy start events').count.tally ∧
          ∀ request : Request, request.method = "GET" →
            (request.path = "/metrics/decisions" →
              (respond policy request (after policy start events)).1 =
                (respond policy request (after policy start events')).1) ∧
            (request.path = "/metrics" → ∃ text text',
              (respond policy request (after policy start events)).1 =
                ⟨200, some "text/plain; version=0.0.4", .text text⟩ ∧
              (respond policy request (after policy start events')).1 =
                ⟨200, some "text/plain; version=0.0.4", .text text'⟩ ∧
              (text.toList.splitOn '\n').Perm (text'.toList.splitOn '\n')) := by
  refine ⟨fun state state' request request' submission submission' listing listing' h h' halike =>
    ⟨respond_brings policy h state, ?_⟩, fun past events events' hperm => ?_⟩
  · rw [respond_brings policy h', halike.review_eq h.check h'.check]
  · intro start
    have hstart : Count.Holds (State.count {}) fun _ => 0 := Count.holds_zero
    obtain ⟨number, hholds, hholds'⟩ := holds_perm policy hperm (holds_after policy past hstart)
    have htally := hholds.tally_eq hholds'
    refine ⟨fun exchange hmem exchange' hmem' hpost hsame => ?_, htally,
      fun request hmethod => ⟨fun hpath => ?_, fun hpath => ?_⟩⟩
    · obtain ⟨met, hanswer⟩ := exists_handle policy _ _ exchange hmem
      obtain ⟨met', hanswer'⟩ := exists_handle policy _ _ exchange' hmem'
      rw [hanswer', hanswer, hsame, handle_post policy hpost]
    · rw [respond_tally policy _ hmethod hpath, respond_tally policy _ hmethod hpath]
      exact congrArg (fun tally : Tally => Response.json 200 tally.document) htally
    · exact ⟨_, _, respond_metrics policy _ hmethod hpath, respond_metrics policy _ hmethod hpath,
        hholds.text_perm hholds'⟩

/-- A chair with a picture. Whatever plays no part in the review is the seller's name. -/
def chairOf (seller : String) : Listing where
  listingId := "l"
  sellerId := seller
  reason := seller
  title := "a chair"
  description := none
  priceCents := none
  currency := some seller
  desiredStatus := some seller
  images := [⟨seller, seller, some "image/svg", some 5⟩]
  variants := [⟨none, seller, none, none, none⟩]

/-- The chair as it is sent in. -/
def chairText (seller : String) : String :=
  "\x7b\"listingId\":\"l\",\"sellerId\":\"" ++ seller ++ "\",\"reason\":\"" ++ seller ++
    "\",\"title\":\"a chair\",\"currency\":\"" ++ seller ++ "\",\"desiredStatus\":\"" ++ seller ++
    "\",\"images\":[[\"" ++ seller ++ "\",\"" ++ seller ++
    "\",\"image/svg\",5]],\"variants\":[[null,\"" ++ seller ++ "\",null,null,null]]\x7d"

theorem chair_brings : ∀ seller ∈ ["s", "t"],
    (Request.submitting (chairText seller)).Brings (chairOf seller).submitted (chairOf seller) := by
  intro seller hseller
  have hread : ∀ seller ∈ ["s", "t"],
      readBody (.submitting (chairText seller)) = .ok (chairOf seller).submitted := by
    decide +kernel
  exact ⟨rfl, path_submitting _, hread seller hseller,
    Submission.check_submitted (chairOf seller)⟩

/-- Two sellers are answered alike, one by a new server and one by a server with a past; and to what
is counted then it makes no difference whether a chair or something that cannot be read comes
first. -/
theorem post_answers_alike_for_chairs :
    let served := after .standard {} firstEvents
    let chair := Event.request (.submitting (chairText "s"))
    let nothing := Event.request (.submitting "")
    (Request.submitting (chairText "s")).Brings (chairOf "s").submitted (chairOf "s") ∧
      (Request.submitting (chairText "t")).Brings (chairOf "t").submitted (chairOf "t") ∧
      (respond .standard (.submitting (chairText "s")) {}).1 =
        (respond .standard (.submitting (chairText "t")) served).1 ∧
      (after .standard served [chair, nothing]).count.tally =
        (after .standard served [nothing, chair]).count.tally := by
  intro served chair nothing
  obtain ⟨hanswers, horder⟩ := post_answers_alike .standard
  have hs := chair_brings "s" (by decide)
  have ht := chair_brings "t" (by decide)
  obtain ⟨hone, hother⟩ := hanswers {} served _ _ _ _ _ _ hs ht ⟨rfl, rfl, rfl, rfl⟩
  have htally (one two : Event) : (after .standard served [one, two]).count.tally =
      (after .standard served [two, one]).count.tally :=
    (horder firstEvents _ _ (.swap two one [])).2.1
  exact ⟨hs, ht, hone.trans hother.symm, htally chair nothing⟩

end Server

end ListingReview
