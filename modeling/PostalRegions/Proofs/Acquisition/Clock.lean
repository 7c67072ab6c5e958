import PostalRegions.Proofs.Acquisition.Steps

/-!
# The clock of an acquisition

Only requests take time.  Whatever an acquisition does between two looks at the deadline is at most
one request, and so the clock always tells the time of the requests that were made.
-/

namespace PostalRegions

/-! ## The time of requests -/

namespace Fetcher

/-- How long a request takes after the earlier ones. -/
def elapsed (fetcher : Fetcher) (earlier : List Request) : Request → Nat
  | .listing address => (fetcher.listing earlier address).elapsed
  | .archive address => (fetcher.archive earlier address).elapsed

def clockFrom (fetcher : Fetcher) (clock : Nat) (earlier : List Request) : List Request → Nat
  | [] => clock
  | request :: rest =>
      fetcher.clockFrom (clock + fetcher.elapsed earlier request) (earlier ++ [request]) rest

/-- The time on a clock that only requests move, after these requests. -/
def clockAfter (fetcher : Fetcher) (clock : Nat) (requests : List Request) : Nat :=
  fetcher.clockFrom clock [] requests

theorem clockFrom_concat (fetcher : Fetcher) (clock : Nat) (earlier requests : List Request)
    (request : Request) :
    fetcher.clockFrom clock earlier (requests ++ [request]) =
      fetcher.clockFrom clock earlier requests +
        fetcher.elapsed (earlier ++ requests) request := by
  induction requests generalizing clock earlier with
  | nil => simp [clockFrom]
  | cons first rest ih =>
      rw [List.cons_append, clockFrom, clockFrom, ih]
      simp

theorem clockAfter_concat (fetcher : Fetcher) (clock : Nat) (requests : List Request)
    (request : Request) :
    fetcher.clockAfter clock (requests ++ [request]) =
      fetcher.clockAfter clock requests + fetcher.elapsed requests request :=
  fetcher.clockFrom_concat clock [] requests request

end Fetcher

/-! ## What is asked between two looks at the clock -/

/-- Nothing is asked, no time passes, and nothing is noted of the deadline. -/
structure Idles {κ : Type} (state next : AcquisitionState κ) : Prop where
  requests : next.requests = state.requests
  clock : next.clock = state.clock
  timedOut : next.report.timedOut = state.report.timedOut

namespace Idles

variable {κ : Type} {state middle next : AcquisitionState κ}

theorem refl (state : AcquisitionState κ) : Idles state state :=
  ⟨rfl, rfl, rfl⟩

theorem trans (hfirst : Idles state middle) (hsecond : Idles middle next) : Idles state next :=
  ⟨hsecond.requests.trans hfirst.requests, hsecond.clock.trans hfirst.clock,
    hsecond.timedOut.trans hfirst.timedOut⟩

theorem record {event : AcquisitionEvent} (hevent : event.request? = none)
    (state : AcquisitionState κ) : Idles state (state.record event) := by
  refine ⟨?_, rfl, rfl⟩
  simp [AcquisitionState.requests, hevent]

theorem mergeTables (version : String) (country : Option Country) (mode : WriteMode)
    (state : AcquisitionState κ) (tables : List Archive.ArchiveTable) :
    Idles state (state.mergeTables version country mode tables) := by
  unfold AcquisitionState.mergeTables
  induction tables generalizing state with
  | nil => exact refl state
  | cons table rest ih =>
      have hmerge : Idles state (state.mergeTable version country mode table) := by
        unfold AcquisitionState.mergeTable
        split
        · exact ⟨rfl, rfl, rfl⟩
        · exact ⟨rfl, rfl, rfl⟩
      exact hmerge.trans (ih _)

end Idles

/-- At most one request is made, and the clock moves by the time that it takes. -/
inductive Asks {κ : Type} (fetcher : Fetcher) (state next : AcquisitionState κ) : Prop
  | nothing (hidle : Idles state next)
  | request (request : Request) (hrequests : next.requests = state.requests ++ [request])
      (hclock : next.clock = state.clock + fetcher.elapsed state.requests request)
      (htimedOut : next.report.timedOut = state.report.timedOut)

namespace Asks

variable {κ : Type} {fetcher : Fetcher} {state middle next : AcquisitionState κ}

theorem after (hidle : Idles state middle) (hasks : Asks fetcher middle next) :
    Asks fetcher state next := by
  cases hasks with
  | nothing hnext => exact .nothing (hidle.trans hnext)
  | request request hrequests hclock htimedOut =>
      rw [hidle.requests] at hrequests
      rw [hidle.requests, hidle.clock] at hclock
      exact .request request hrequests hclock (htimedOut.trans hidle.timedOut)

theorem before (hasks : Asks fetcher state middle) (hidle : Idles middle next) :
    Asks fetcher state next := by
  cases hasks with
  | nothing hmiddle => exact .nothing (hmiddle.trans hidle)
  | request request hrequests hclock htimedOut =>
      exact .request request (hidle.requests.trans hrequests) (hidle.clock.trans hclock)
        (hidle.timedOut.trans htimedOut)

theorem requested (fetcher : Fetcher) (state : AcquisitionState κ) (request : Request) :
    Asks fetcher state ((state.record (.requested request)).wait
      (fetcher.elapsed state.requests request)) := by
  refine .request request ?_ rfl rfl
  exact List.filterMap_append

theorem timedOut_eq (hasks : Asks fetcher state next) :
    next.report.timedOut = state.report.timedOut := by
  cases hasks with
  | nothing hidle => exact hidle.timedOut
  | request _ _ _ htimedOut => exact htimedOut

end Asks

namespace AcquisitionTask

variable {κ : Type}

theorem idles_keep (task : AcquisitionTask) (state : AcquisitionState κ) (address : String)
    (content : ByteArray) : Idles state (task.keep state address content) := by
  unfold keep
  split
  · exact .refl state
  · split
    · rename_i directory _
      have hdirectory : Idles state { state with directory := directory } := ⟨rfl, rfl, rfl⟩
      exact hdirectory.trans (.record rfl _)
    · exact ⟨rfl, rfl, rfl⟩

theorem asks_download (task : AcquisitionTask) (state : AcquisitionState κ) (address : String) :
    Asks task.fetcher state (task.download state address).1 := by
  have hasked := Asks.requested task.fetcher state (.archive address)
  unfold download
  dsimp only
  split
  · exact hasked
  · exact hasked.before ⟨rfl, rfl, rfl⟩
  · split
    · exact hasked.before (task.idles_keep _ address _)
    · exact hasked.before ⟨rfl, rfl, rfl⟩

/-- The clock tells the time of the requests that were made. -/
def TellsTime (task : AcquisitionTask) (clock : Nat) (state : AcquisitionState κ) : Prop :=
  state.clock = task.fetcher.clockAfter clock state.requests

theorem TellsTime.asks {task : AcquisitionTask} {clock : Nat} {state next : AcquisitionState κ}
    (hstate : task.TellsTime clock state) (hasks : Asks task.fetcher state next) :
    task.TellsTime clock next := by
  unfold TellsTime at hstate ⊢
  cases hasks with
  | nothing hidle => rw [hidle.clock, hidle.requests, hstate]
  | request last hrequests hclock _ =>
      rw [hclock, hrequests, Fetcher.clockAfter_concat, hstate]

variable [DatabaseFormat κ]

theorem idles_fromCache (task : AcquisitionTask) (state : AcquisitionState κ) (address : String) :
    Idles state (task.fromCache state address).1 := by
  have hdirectory (directory : DataDirectory κ) :
      Idles state { state with directory := directory } := ⟨rfl, rfl, rfl⟩
  unfold fromCache
  split
  · exact .refl state
  · split
    · exact (hdirectory _).trans (.record rfl _)
    · exact (hdirectory _).trans (.record rfl _)
    · exact hdirectory _

theorem asks_obtain (task : AcquisitionTask) (state : AcquisitionState κ) (address : String) :
    Asks task.fetcher state (task.obtain state address).1 := by
  have hcache := task.idles_fromCache state address
  rcases task.obtain_cases state address with ⟨content, _, hobtain⟩ | ⟨_, hobtain⟩
  · rw [hobtain]
    exact .nothing hcache
  · rw [hobtain]
    exact .after hcache (task.asks_download _ address)

theorem tellsTime_step {task : AcquisitionTask} {clock : Nat} {state next : AcquisitionState κ}
    (hstep : task.Step state next) (hstate : task.TellsTime clock state) :
    task.TellsTime clock next := by
  cases hstep with
  | checked => exact hstate
  | listed => exact hstate.asks (.requested task.fetcher state _)
  | obtained address => exact hstate.asks (task.asks_obtain state address)
  | merged address country mode content tables _ _ =>
      exact hstate.asks ((task.asks_obtain state address).before
        ((Idles.record rfl _).trans (.mergeTables ..)))
  | skipped => exact hstate
  | loaded => exact hstate

end AcquisitionTask

end PostalRegions
