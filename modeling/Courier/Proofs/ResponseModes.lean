import Mathlib.Data.List.Induction
import Courier.CallOptions
import Courier.Proofs.Session

/-!
# The mode is only a form

Options that were put together in steps are those of the last value given for each part, and the
mode of the last switch. A call hands over what its options describe, and the mode is looked at
after everything else: of two calls with the same options, one in each mode, either both fail alike
or one gives the data of the envelope that the other gives.
-/

namespace Courier

/-! ## What was given last -/

namespace Adjustment

/-- The body that a step gives. -/
def body? : Adjustment → Option Datum
  | body data => some data
  | _ => none

/-- The parameters that a step gives. -/
def params? : Adjustment → Option Datum
  | params data => some data
  | _ => none

/-- The query that a step gives. -/
def query? : Adjustment → Option Datum
  | query data => some data
  | _ => none

/-- The layer that a step gives. -/
def layer? : Adjustment → Option Layer
  | layer given => some given
  | _ => none

/-- The mode that a step switches to. -/
def mode? : Adjustment → Option Mode
  | fullResponse => some .full
  | bodyOnly => some .bodyOnly
  | _ => none

/-- Whether a step sets an option, and does not switch the mode. -/
def isSetter (step : Adjustment) : Bool :=
  step.mode?.isNone

/-- The last value of a part in a chain of steps, or the one before the first. -/
def last {α : Type} (part : Adjustment → Option α) (start : α) (steps : List Adjustment) : α :=
  (steps.filterMap part).getLastD start

@[simp] theorem last_nil {α : Type} (part : Adjustment → Option α) (start : α) :
    last part start [] = start := rfl

theorem last_concat {α : Type} (part : Adjustment → Option α) (start : α)
    (steps : List Adjustment) (step : Adjustment) :
    last part start (steps ++ [step]) = (part step).getD (last part start steps) := by
  cases h : part step with
  | none => simp [last, h]
  | some value => simp [last, h]

/-- A part that no switch gives is the same without the switches. -/
theorem last_filter_isSetter {α : Type} {part : Adjustment → Option α}
    (hpart : ∀ step, step.isSetter = false → part step = none) (start : α)
    (steps : List Adjustment) :
    last part start (steps.filter isSetter) = last part start steps := by
  have hsome : ∀ step, (if step.isSetter then part step else none) = part step := by
    intro step
    cases h : step.isSetter with
    | true => rfl
    | false => simp [hpart step h]
  rw [last, List.filterMap_filter, last]
  simp only [hsome]

end Adjustment

namespace CallOptions

open Adjustment

/-- The options of a chain of steps: for each the last value given. -/
def given (start : CallOptions) (steps : List Adjustment) : Options where
  body := last body? start.body steps
  params := last params? start.params steps
  query := last query? start.query steps
  layer := last layer? start.layer steps

/-- The mode of a chain of steps: that of the last switch. -/
def chosen (start : CallOptions) (steps : List Adjustment) : Mode :=
  last mode? start.mode steps

theorem adjust_concat (start : CallOptions) (steps : List Adjustment) (step : Adjustment) :
    start.adjust (steps ++ [step]) = step.apply (start.adjust steps) := by
  simp only [adjust, List.foldl_append, List.foldl_cons, List.foldl_nil]

/-- **The whole chain** leaves the last value of each option, and the last mode. -/
theorem adjust_eq (start : CallOptions) (steps : List Adjustment) :
    start.adjust steps = { start.given steps with mode := start.chosen steps } := by
  -- the last step decides, so the induction is on the chain from its end
  induction steps using List.reverseRecOn with
  | nil => rfl
  | append_singleton steps step ih =>
    rw [adjust_concat, ih]
    cases step <;>
      simp [apply, withMode, given, chosen, last_concat, body?, params?, query?, layer?, mode?]

/-- What was given does not depend on the switches between. -/
theorem given_filter_isSetter (start : CallOptions) (steps : List Adjustment) :
    start.given (steps.filter isSetter) = start.given steps := by
  have hswitch : ∀ {step : Adjustment}, step.isSetter = false →
      step = fullResponse ∨ step = bodyOnly := by
    intro step h
    cases step <;> simp_all [isSetter, mode?]
  simp only [given]
  congr 1 <;> refine last_filter_isSetter (fun step h => ?_) _ _ <;>
    obtain rfl | rfl := hswitch h <;> rfl

end CallOptions

namespace Client

variable {ε : Type}

/-! ## Calls in either mode -/

/-- The request that calls of an endpoint with these options stand for, in any mode: the options can
be sent, and what they are encoded to is in the request, part by part. -/
def Requests (endpoint : Endpoint) (options : Options) (request : Request) : Prop :=
  ∃ p b q, Sendable options p b q ∧ ∀ mode, IsDescriptor ⟨endpoint, options, mode⟩ p b q request

/-- Descriptions are what they have to be. -/
theorem requests_iff {endpoint : Endpoint} {options : Options} {request : Request} :
    Requests endpoint options request ↔
      (describe endpoint options : Except (Failure ε) Request) = .ok request := by
  constructor
  · rintro ⟨p, b, q, hsend, hdescriptor⟩
    obtain ⟨r, hr, hdescriptor'⟩ :=
      @describe_of_sendable ε ⟨endpoint, options, .full⟩ p b q hsend
    rw [hr, hdescriptor'.eq (hdescriptor .full)]
  · intro h
    rcases sendable_or_firstFailure ε options with ⟨p, b, q, hsend⟩ | ⟨failure, hfail⟩
    · obtain ⟨r, hr, d⟩ := @describe_of_sendable ε ⟨endpoint, options, .full⟩ p b q hsend
      obtain rfl := Except.ok.inj (h.symm.trans hr)
      -- the description does not look at the mode
      exact ⟨p, b, q, hsend, fun _ =>
        ⟨d.method, d.url, d.body, d.query, d.timeout, d.baseUrl, d.accepts, d.headers⟩⟩
    · rw [describe_of_firstFailure endpoint hfail] at h
      cases h

/-- A description that fails does so by the first failure of the options. -/
theorem firstFailure_iff {endpoint : Endpoint} {options : Options} {failure : Failure ε} :
    FirstFailure options failure ↔ describe endpoint options = .error failure := by
  constructor
  · exact describe_of_firstFailure endpoint
  · intro h
    rcases sendable_or_firstFailure ε options with ⟨p, b, q, hsend⟩ | ⟨failure', hfail⟩
    · obtain ⟨r, hr, -⟩ := @describe_of_sendable ε ⟨endpoint, options, .full⟩ p b q hsend
      rw [hr] at h
      cases h
    · rw [describe_of_firstFailure endpoint hfail] at h
      cases h
      exact hfail

/-- How a call with these options ends in each mode, and which requests have been handed over then.
The mode is looked at only where a reply was read. -/
inductive Ends (transport : Transport ε) (endpoint : Endpoint) (options : Options)
    (before : List Request) : (Mode → Except (Failure ε) Reply × List Request) → Prop
  /-- The options describe no request. -/
  | undescribed {failure : Failure ε} (fails : FirstFailure options failure) :
      Ends transport endpoint options before fun _ => (.error failure, before)
  /-- The transport fails. -/
  | unanswered {request : Request} {error : ε} (requests : Requests endpoint options request)
      (answers : transport before request = .error error) :
      Ends transport endpoint options before fun _ =>
        (.error (.transport error), before ++ [request])
  /-- The body of the response is not of the declared shape. -/
  | unread {request : Request} {response : Response} {error : ReadError}
      (requests : Requests endpoint options request)
      (answers : transport before request = .ok response)
      (reads : endpoint.response.decodeBody response.body = .error error) :
      Ends transport endpoint options before fun _ =>
        (.error (.decode response.status error), before ++ [request])
  /-- The body is read. -/
  | answered {request : Request} {response : Response} {data : Datum}
      (requests : Requests endpoint options request)
      (answers : transport before request = .ok response)
      (reads : endpoint.response.decodeBody response.body = .ok data) :
      Ends transport endpoint options before fun mode =>
        (.ok (mode.shape (response.withData data)), before ++ [request])

theorem readReply_of_error {shape : Shape} {response : Response} {error : ReadError}
    (h : shape.decodeBody response.body = .error error) (mode : Mode) :
    (readReply shape mode response : Except (Failure ε) Reply)
      = .error (.decode response.status error) := by
  simp [readReply, Response.decode, h, Except.map]

theorem readReply_of_ok {shape : Shape} {response : Response} {data : Datum}
    (h : shape.decodeBody response.body = .ok data) (mode : Mode) :
    (readReply shape mode response : Except (Failure ε) Reply)
      = .ok (mode.shape (response.withData data)) := by
  simp [readReply, Response.decode, h, Except.map]

/-- Every call ends in one of the ways, and in the same one in both modes. -/
theorem request_ends (transport : Transport ε) (endpoint : Endpoint) (options : Options)
    (before : List Request) :
    Ends transport endpoint options before fun mode =>
      runCall (request transport endpoint options mode) before := by
  simp only [request_eq_exchange]
  cases hdescribe : (describe endpoint options : Except (Failure ε) Request) with
  | error failure =>
    simp only [runCall_exchange_error]
    exact .undescribed (firstFailure_iff.mpr hdescribe)
  | ok request =>
    have hrequests := requests_iff.mpr hdescribe
    simp only [runCall_exchange_ok]
    cases hanswer : transport before request with
    | error error => exact .unanswered hrequests hanswer
    | ok response =>
      cases hread : endpoint.response.decodeBody response.body with
      | error error =>
        simp only [outcome, readReply_of_error hread]
        exact .unread hrequests hanswer hread
      | ok data =>
        simp only [outcome, readReply_of_ok hread]
        exact .answered hrequests hanswer hread

/-- Two ends that differ in the form of what comes back: of a call that wants the data alone, and
of one that wants all of the response. -/
inductive SameButForm (transport : Transport ε) (before : List Request) :
    Except (Failure ε) Reply × List Request → Except (Failure ε) Reply × List Request → Prop
  /-- Both fail alike. -/
  | failed (failure : Failure ε) (log : List Request) :
      SameButForm transport before (.error failure, log) (.error failure, log)
  /-- Both have the data of one response, whose status and headers are in the envelope. -/
  | answered {request : Request} {response : Response} (data : Datum)
      (answers : transport before request = .ok response) :
      SameButForm transport before
        (.ok (.body data), before ++ [request])
        (.ok (.full ⟨response.status, response.headers, data⟩), before ++ [request])

theorem Ends.sameButForm {transport : Transport ε} {endpoint : Endpoint} {options : Options}
    {before : List Request} {run : Mode → Except (Failure ε) Reply × List Request}
    (h : Ends transport endpoint options before run) :
    SameButForm transport before (run .bodyOnly) (run .full) := by
  cases h with
  | undescribed => exact .failed _ _
  | unanswered => exact .failed _ _
  | unread => exact .failed _ _
  | answered _ answers _ => exact .answered _ answers

/-- A call is that of the last options given, in the last mode chosen. -/
theorem submit_adjust (transport : Transport ε) (endpoint : Endpoint) (start : CallOptions)
    (steps : List Adjustment) :
    submit transport endpoint (start.adjust steps)
      = request transport endpoint (start.given steps) (start.chosen steps) := by
  rw [CallOptions.adjust_eq, submit]

/-- **Only the form**: calls whose options come to the same in the end run as one call does, each in
the mode that was chosen last, and switches do not count among the options. Of two such calls, one
for the data alone and one for all of the response, both hand over the same; they fail alike, or the
data of the one is in the envelope of the other. -/
theorem mode_is_only_form (transport : Transport ε) (endpoint : Endpoint) (start : CallOptions)
    (before : List Request) :
    (∀ options, ∃ run, Ends transport endpoint options before run ∧
      ∀ steps, start.given steps = options →
        runCall (submit transport endpoint (start.adjust steps)) before
          = run (start.chosen steps)) ∧
    (∀ steps, start.given (steps.filter Adjustment.isSetter) = start.given steps) ∧
    ∀ inBody inFull, start.given inBody = start.given inFull →
      start.chosen inBody = .bodyOnly → start.chosen inFull = .full →
        SameButForm transport before
          (runCall (submit transport endpoint (start.adjust inBody)) before)
          (runCall (submit transport endpoint (start.adjust inFull)) before) := by
  refine ⟨?_, start.given_filter_isSetter, ?_⟩
  · intro options
    refine ⟨_, request_ends transport endpoint options before, ?_⟩
    rintro steps rfl
    rw [submit_adjust]
  · intro inBody inFull hgiven hbody hfull
    rw [submit_adjust, submit_adjust, hgiven, hbody, hfull]
    exact (request_ends transport endpoint (start.given inFull) before).sameButForm

/-- A query that is replaced on the way, and switches before and after it. -/
theorem replaced_query_same_but_form :
    let transport : Transport Unit := fun _ _ => .ok ⟨201, [("x-id", "7")], "on"⟩
    let endpoint : Endpoint := ⟨.get, "/lamps", .empty, .text⟩
    let start : CallOptions := .ofParts .absent .absent .absent
    let inBody : List Adjustment :=
      [.fullResponse, .query (.map [("n", .text "1")]), .bodyOnly, .query (.map [])]
    let inFull : List Adjustment := [.bodyOnly, .query (.map []), .fullResponse]
    start.given inBody = start.given inFull ∧
      start.chosen inBody = .bodyOnly ∧ start.chosen inFull = .full ∧
      SameButForm transport []
        (runCall (submit transport endpoint (start.adjust inBody)) [])
        (runCall (submit transport endpoint (start.adjust inFull)) []) ∧
      (runCall (submit transport endpoint (start.adjust inFull)) []).1
        = .ok (.full ⟨201, [("x-id", "7")], .text "on"⟩) := by
  intro transport endpoint start inBody inFull
  have hgiven : start.given inBody = start.given inFull := rfl
  have hform := (mode_is_only_form transport endpoint start []).2.2 inBody inFull hgiven rfl rfl
  exact ⟨hgiven, rfl, rfl, hform, rfl⟩

end Client

end Courier
