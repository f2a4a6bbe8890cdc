import Mathlib.Logic.Relation
import AiopsBundler.Bundler.Process

/-!
# The Loop Driver and the Debug Endpoints

`Bundler.Run` (package `bundler`; the Go text of `.gitlab-ci.yml`) starts a goroutine that
runs `Process` for each supported middleware on every tick of a one-second ticker, until it
receives from the channel `done`. It then records the ticker's `Stop` in the field `stop` and
sets `isRunning`. `Bundler.Stop` clears `isRunning`, calls `i.stop()` and sends on `done`.
Each returns at once when `isRunning` already says what it would make it. `main` calls `Run`
at start-up. The debug endpoint `SetBundlingMode` (`pkg/client/debug.go`) calls `Stop` for
`"manual"` and `Run` for `"auto"`, and `SendBundleNow` runs `Process` once.

Neither call takes a lock. The check of `isRunning` and the write of it are separate steps,
and the RPC server serves each request on a goroutine of its own. The model therefore has
two levels. At the lower one (`Control.step`), each call in flight is a thread whose atomic
steps interleave with the other threads'. At the upper one (`Driver.run`, `Driver.stop`), a
call runs to its end before the next begins. This is what the lower level does when calls do
not overlap (`Control.run_refines`, `Control.stop_refines`).

With the calls serialised, the driver keeps **one ticking loop exactly when it is running**,
and every call in flight finishes: no `Stop` waits for ever on `done`. Two calls that
overlap break this. Two `"auto"` requests can start two loops; a later `"manual"` then stops
one of them, and the other keeps bundling. Two `"manual"` requests can end with the driver
running and no loop at all.

## Conventions

* A loop goroutine is its ticker's id and whether that ticker still ticks. A loop whose
  ticker was stopped never runs `Process` again, but it lives until it receives from `done`.
* The send on the unbuffered channel `done` completes when some live loop receives it. Which
  loop receives is left open. With no live loop the send cannot complete, and the model has no
  step for it.
* A call's atomic steps are cut at its reads and writes of the driver's fields. `Run` reads
  `isRunning`, then starts the loop and sets the flag. `Stop` reads `isRunning`, then clears
  it and stops the ticker, then sends. A schedule at this grain is also one at any finer
  grain.
* `Run` never returns an error, so the error branch of `"auto"` is never taken.

## Main results

* `serial_control_safe`: along any run of the control calls with at most one call in flight,
  there is at most one loop. At rest, a loop ticks exactly when the driver is running, and
  a call in flight can always finish.
* `overlapping_runs_bundle_after_stop`, `overlapping_stops_strand_running`: from any
  consistent driver, overlapping calls can leave a loop bundling while the driver is stopped,
  or the driver running with no loop.
* `setBundlingModes_isRunning`: after any sequence of serialised `SetBundlingMode` requests,
  the bundler bundles exactly when the last recognised mode was `"auto"`.
* `sendBundleNow_reply`: `SendBundleNow` replies with a hash only when the context of its run
  holds one, and it fails with `txn_hash not in ctx Data` after a run that removed ops
  without sending.
-/

namespace AiopsBundler

/-! ### The driver -/

/-- A goroutine that `Run` started: its ticker, and whether that ticker still ticks. -/
structure Loop where
  ticker : ℕ
  ticking : Bool
  deriving DecidableEq, Repr

/-- What `Run` and `Stop` read and write: `isRunning`, the ticker that `i.stop` stops (`none`
for the `func() {}` of `New`), and the goroutines `Run` started that have not yet received
from `done`. `nextTicker` names the ticker `time.NewTicker` makes next. -/
structure Driver where
  isRunning : Bool
  stopTicker : Option ℕ
  loops : List Loop
  nextTicker : ℕ
  deriving DecidableEq, Repr

namespace Driver

/-- `New`: not running, and no loop. -/
def new : Driver := ⟨false, none, [], 0⟩

/-- The second step of `Run`: a new ticker and a loop on it, `isRunning` set, and `i.stop`
the new ticker's `Stop`. -/
def startLoop (d : Driver) : Driver :=
  ⟨true, some d.nextTicker, d.loops ++ [⟨d.nextTicker, true⟩], d.nextTicker + 1⟩

/-- The second step of `Stop`: `isRunning` cleared and `i.stop()` called. -/
def clearAndStop (d : Driver) : Driver :=
  { d with isRunning := false,
           loops := d.loops.map fun l =>
             if some l.ticker = d.stopTicker then { l with ticking := false } else l }

/-- The loop `l` receives from `done` and returns. -/
def receive (d : Driver) (l : Loop) : Driver := { d with loops := d.loops.erase l }

/-- Some loop's ticker still ticks, so `Process` still runs every second. -/
def bundling (d : Driver) : Bool := d.loops.any Loop.ticking

/-- `Run`, run to its end with no other call in between. -/
def run (d : Driver) : Driver := if d.isRunning then d else d.startLoop

/-- `Stop`, run to its end with no other call in between, the first live loop receiving from
`done`: `none` when no loop is left to receive, and the send blocks for ever. -/
def stop (d : Driver) : Option Driver :=
  if d.isRunning then
    match d.clearAndStop.loops with
    | [] => none
    | l :: _ => some (d.clearAndStop.receive l)
  else some d

/-- **One ticking loop exactly when running**: a running driver has one loop, on the ticker
`i.stop` stops, and that ticker ticks; a stopped driver has none. -/
def Consistent (d : Driver) : Prop :=
  if d.isRunning then ∃ t, d.stopTicker = some t ∧ d.loops = [⟨t, true⟩] else d.loops = []

theorem Consistent.running {d : Driver} (hd : d.Consistent) (hr : d.isRunning) :
    ∃ t, d.stopTicker = some t ∧ d.loops = [⟨t, true⟩] := by
  simpa [Consistent, hr] using hd

theorem Consistent.stopped {d : Driver} (hd : d.Consistent) (hr : d.isRunning = false) :
    d.loops = [] := by
  simpa [Consistent, hr] using hd

theorem Consistent.bundling_eq {d : Driver} (hd : d.Consistent) : d.bundling = d.isRunning := by
  cases hr : d.isRunning
  · simp [bundling, hd.stopped hr]
  · obtain ⟨t, -, hl⟩ := hd.running hr
    simp [bundling, hl]

theorem Consistent.loops_length_le {d : Driver} (hd : d.Consistent) : d.loops.length ≤ 1 := by
  cases hr : d.isRunning
  · simp [hd.stopped hr]
  · obtain ⟨t, -, hl⟩ := hd.running hr
    simp [hl]

theorem Consistent.run {d : Driver} (hd : d.Consistent) : d.run.Consistent ∧ d.run.isRunning := by
  unfold Driver.run
  split_ifs with hr
  · exact ⟨hd, hr⟩
  · exact ⟨by simp [Consistent, startLoop, hd.stopped (by simpa using hr)], rfl⟩

theorem Consistent.stop {d : Driver} (hd : d.Consistent) :
    ∃ d', d.stop = some d' ∧ d'.Consistent ∧ d'.isRunning = false := by
  unfold Driver.stop
  split_ifs with hr
  · obtain ⟨t, ht, hl⟩ := hd.running hr
    simp [clearAndStop, receive, Consistent, ht, hl]
  · exact ⟨d, rfl, hd, by simpa using hr⟩

/-- `main` starts the loop: one ticking loop, on the first ticker. -/
theorem new_run_consistent : new.run.Consistent := ⟨0, rfl, rfl⟩

end Driver

/-! ### Control calls in flight -/

/-- A control call in flight, between two of its atomic steps. -/
inductive Pending
  /-- `Run` found the driver stopped, and has yet to start its loop and set the flag. -/
  | run
  /-- `Stop` found the driver running, and has yet to clear the flag and stop the ticker. -/
  | stop
  /-- `Stop` cleared the flag, and waits on `i.done <- true` for a loop to receive. -/
  | send
  deriving DecidableEq, Repr

/-- The driver, with the control calls in flight. -/
structure Control where
  driver : Driver
  pending : List Pending
  deriving DecidableEq, Repr

/-- An atomic step of the control calls: a call begins with its check of `isRunning`, or a
call in flight takes its next step. -/
inductive Action
  | beginRun
  | beginStop
  | start
  | clear
  | send (l : Loop)
  deriving DecidableEq, Repr

namespace Control

/-- One atomic step: `none` when it is not enabled. A call that finds `isRunning` already as
it would set it returns at once and leaves nothing in flight; the send of a `Stop` needs a
live loop to receive it. -/
def step (c : Control) : Action → Option Control
  | .beginRun => some (if c.driver.isRunning then c else ⟨c.driver, .run :: c.pending⟩)
  | .beginStop => some (if c.driver.isRunning then ⟨c.driver, .stop :: c.pending⟩ else c)
  | .start =>
    if .run ∈ c.pending then some ⟨c.driver.startLoop, c.pending.erase .run⟩ else none
  | .clear =>
    if .stop ∈ c.pending then some ⟨c.driver.clearAndStop, .send :: c.pending.erase .stop⟩
    else none
  | .send l =>
    if .send ∈ c.pending ∧ l ∈ c.driver.loops then
      some ⟨c.driver.receive l, c.pending.erase .send⟩
    else none

/-- A schedule of atomic steps, from `c`. -/
def run (c : Control) (acts : List Action) : Option Control := acts.foldlM step c

/-- Some atomic step leads from `c` to `c'`. -/
def Step (c c' : Control) : Prop := ∃ a, c.step a = some c'

/-- A step after which at most one call is in flight: the steps of a serialised control
plane. -/
def SerialStep (c c' : Control) : Prop := Step c c' ∧ c'.pending.length ≤ 1

/-- A schedule that runs is a run of atomic steps. -/
theorem run_reflTransGen {c c' : Control} (acts : List Action) (h : c.run acts = some c') :
    Relation.ReflTransGen Step c c' := by
  induction acts generalizing c with
  | nil => cases h; exact .refl
  | cons a acts ih =>
    obtain ⟨c₁, h₁, h⟩ := Option.bind_eq_some.1 h
    exact .head ⟨a, h₁⟩ (ih h)

/-- A schedule run one call at a time: `none` when a step is not enabled or leaves two calls
in flight. -/
def runSerial (c : Control) (acts : List Action) : Option Control :=
  acts.foldlM (fun c a => (c.step a).filter fun c' => decide (c'.pending.length ≤ 1)) c

/-- A schedule that runs one call at a time is a run of serialised steps. -/
theorem runSerial_reflTransGen {c c' : Control} (acts : List Action)
    (h : c.runSerial acts = some c') : Relation.ReflTransGen SerialStep c c' := by
  induction acts generalizing c with
  | nil => cases h; exact .refl
  | cons a acts ih =>
    obtain ⟨c₁, h₁, h⟩ := Option.bind_eq_some.1 h
    obtain ⟨hstep, hlen⟩ := Option.filter_eq_some.1 h₁
    exact .head ⟨⟨a, hstep⟩, of_decide_eq_true hlen⟩ (ih h)

/-- **`Run` on its own is two atomic steps** (one, when the driver already runs). -/
theorem run_refines (d : Driver) :
    ∃ acts, (⟨d, []⟩ : Control).run acts = some ⟨d.run, []⟩ := by
  by_cases hr : d.isRunning
  · exact ⟨[.beginRun], by simp [Control.run, step, Driver.run, hr]⟩
  · exact ⟨[.beginRun, .start], by simp [Control.run, step, Driver.run, hr]⟩

/-- **`Stop` on its own is three atomic steps** (one, when the driver is already stopped). -/
theorem stop_refines {d d' : Driver} (h : d.stop = some d') :
    ∃ acts, (⟨d, []⟩ : Control).run acts = some ⟨d', []⟩ := by
  unfold Driver.stop at h
  split_ifs at h with hr
  · split at h
    · cases h
    · rename_i l _ hl
      cases h
      refine ⟨[.beginStop, .clear, .send l], ?_⟩
      simp [Control.run, step, hr, hl]
  · cases h
    exact ⟨[.beginStop], by simp [Control.run, step, hr]⟩

/-! ### Serialised calls -/

/-- The states of a control plane with at most one call in flight, from a consistent
driver. -/
def Serial : Control → Prop
  | ⟨d, []⟩ => d.Consistent
  | ⟨d, [.run]⟩ => d.isRunning = false ∧ d.loops = []
  | ⟨d, [.stop]⟩ =>
    d.isRunning = true ∧ ∃ t, d.stopTicker = some t ∧ d.loops = [⟨t, true⟩]
  | ⟨d, [.send]⟩ => d.isRunning = false ∧ ∃ t, d.loops = [⟨t, false⟩]
  | _ => False

/-- A step of a serialised control plane keeps it serial. -/
theorem Serial.step {c c' : Control} (h : c.Serial) (hs : SerialStep c c') : c'.Serial := by
  obtain ⟨⟨a, ha⟩, hlen⟩ := hs
  obtain ⟨d, ps⟩ := c
  match ps, h with
  | [], hd =>
    have hd : d.Consistent := hd
    cases hr : d.isRunning
    · cases a <;> simp [Control.step, hr] at ha <;> subst ha
      · exact ⟨hr, hd.stopped hr⟩
      · exact hd
    · cases a <;> simp [Control.step, hr] at ha <;> subst ha
      · exact hd
      · exact ⟨hr, hd.running hr⟩
  | [.run], ⟨hr, hl⟩ =>
    cases a <;> simp [Control.step, hr] at ha <;> subst ha
    · simp at hlen
    · exact ⟨hr, hl⟩
    · simp [Serial, Driver.Consistent, Driver.startLoop, hl]
  | [.stop], ⟨hr, t, ht, hl⟩ =>
    cases a <;> simp [Control.step, hr] at ha <;> subst ha
    · exact ⟨hr, t, ht, hl⟩
    · simp at hlen
    · simp [Serial, Driver.clearAndStop, ht, hl]
  | [.send], ⟨hr, t, hl⟩ =>
    cases a <;> simp [Control.step, hr, hl] at ha
    · subst ha; simp at hlen
    · subst ha; exact ⟨hr, t, hl⟩
    · obtain ⟨rfl, rfl⟩ := ha
      simp [Serial, Driver.Consistent, Driver.receive, hr, hl]

/-- Every state a serialised control plane reaches is serial. -/
theorem Serial.reach {c c' : Control} (h : c.Serial)
    (hr : Relation.ReflTransGen SerialStep c c') : c'.Serial := by
  induction hr with
  | refl => exact h
  | tail _ hs ih => exact ih.step hs

theorem Serial.loops_length_le {c : Control} (h : c.Serial) : c.driver.loops.length ≤ 1 := by
  obtain ⟨d, ps⟩ := c
  match ps, h with
  | [], hd => exact Driver.Consistent.loops_length_le hd
  | [.run], ⟨_, hl⟩ => simp [hl]
  | [.stop], ⟨_, _, _, hl⟩ => simp [hl]
  | [.send], ⟨_, _, hl⟩ => simp [hl]

/-- A serial call in flight finishes within two more serial steps. -/
theorem Serial.finishes {c : Control} (h : c.Serial) :
    ∃ c', Relation.ReflTransGen SerialStep c c' ∧ c'.pending = [] := by
  obtain ⟨d, ps⟩ := c
  match ps, h with
  | [], _ => exact ⟨_, .refl, rfl⟩
  | [.run], _ =>
    exact ⟨⟨d.startLoop, []⟩, .single ⟨⟨.start, by simp [Control.step]⟩, by simp⟩, rfl⟩
  | [.stop], ⟨_, t, ht, hl⟩ =>
    have hc : d.clearAndStop.loops = [⟨t, false⟩] := by simp [Driver.clearAndStop, ht, hl]
    have hclear : SerialStep ⟨d, [.stop]⟩ ⟨d.clearAndStop, [.send]⟩ :=
      ⟨⟨.clear, by simp [Control.step]⟩, by simp⟩
    exact ⟨⟨d.clearAndStop.receive ⟨t, false⟩, []⟩,
      .tail (.single hclear) ⟨⟨.send ⟨t, false⟩, by simp [Control.step, hc]⟩, by simp⟩, rfl⟩
  | [.send], ⟨_, t, hl⟩ =>
    exact ⟨⟨d.receive ⟨t, false⟩, []⟩,
      .single ⟨⟨.send ⟨t, false⟩, by simp [Control.step, hl]⟩, by simp⟩, rfl⟩

end Control

/-- **Serialised control calls keep one loop, ticking exactly when running**: along any run of
`Run` and `Stop` calls from a consistent driver in which at most one call is in flight at a
time, there is never more than one loop. At rest, a loop ticks exactly when `isRunning` is
set, and a call in flight can always run to its end: no `Stop` waits for ever on `done`. -/
theorem serial_control_safe {d : Driver} (hd : d.Consistent) {c : Control}
    (hr : Relation.ReflTransGen Control.SerialStep ⟨d, []⟩ c) :
    c.driver.loops.length ≤ 1 ∧ (c.pending = [] → c.driver.bundling = c.driver.isRunning) ∧
      ∃ c', Relation.ReflTransGen Control.SerialStep c c' ∧ c'.pending = [] := by
  have h : c.Serial := Control.Serial.reach (c := ⟨d, []⟩) hd hr
  refine ⟨h.loops_length_le, fun hp => ?_, h.finishes⟩
  obtain ⟨d', ps⟩ := c
  subst hp
  exact Driver.Consistent.bundling_eq h

/-- From the driver `main` starts: a `"manual"` request, an `"auto"` request, and a second
`"manual"` request that has found the driver running, one call at a time. -/
theorem serial_control_safe_manual_auto_manual :
    let c : Control := ⟨⟨true, some 1, [⟨1, true⟩], 2⟩, [.stop]⟩
    Driver.new.run.Consistent ∧
      Relation.ReflTransGen Control.SerialStep ⟨Driver.new.run, []⟩ c ∧
      (c.driver.loops.length ≤ 1 ∧ (c.pending = [] → c.driver.bundling = c.driver.isRunning) ∧
        ∃ c', Relation.ReflTransGen Control.SerialStep c c' ∧ c'.pending = []) := by
  intro c
  have hr : Relation.ReflTransGen Control.SerialStep ⟨Driver.new.run, []⟩ c :=
    Control.runSerial_reflTransGen
      [.beginStop, .clear, .send ⟨0, false⟩, .beginRun, .start, .beginStop] rfl
  exact ⟨Driver.new_run_consistent, hr, serial_control_safe Driver.new_run_consistent hr⟩

/-- **Overlapping `"auto"` requests leave a loop bundling in manual mode**, against the
conclusion of `serial_control_safe` once calls overlap. From any consistent driver, a
`"manual"` request, then two `"auto"` requests whose checks both run before either starts its
loop, start two loops. A last `"manual"` request stops the ticker of the second loop, and its
send may be received by that loop. At rest the driver is then stopped while the first loop
still ticks, and a further `"manual"` changes nothing. -/
theorem overlapping_runs_bundle_after_stop {d : Driver} (hd : d.Consistent) :
    ∃ c, Relation.ReflTransGen Control.Step ⟨d, []⟩ c ∧ c.pending = [] ∧
      c.driver.isRunning = false ∧ c.driver.bundling = true ∧ c.driver.stop = some c.driver := by
  obtain ⟨d₁, hs, hd₁, hr₁⟩ := hd.stop
  obtain ⟨acts, hacts⟩ := Control.stop_refines hs
  have hl₁ := hd₁.stopped hr₁
  let n := d₁.nextTicker
  refine ⟨⟨⟨false, some (n + 1), [⟨n, true⟩], n + 2⟩, []⟩,
    (Control.run_reflTransGen _ hacts).trans (Control.run_reflTransGen [.beginRun,
      .beginRun, .start, .start, .beginStop, .clear, .send ⟨n + 1, false⟩] ?_),
    rfl, rfl, rfl, rfl⟩
  simp [Control.run, Control.step, Driver.startLoop, Driver.clearAndStop, Driver.receive, hr₁,
    hl₁, n]

/-- **Overlapping `"manual"` requests can strand the driver running with no loop**, against
the conclusion of `serial_control_safe` once calls overlap. From any consistent driver, an
`"auto"` request and then two `"manual"` requests that both pass their check. The first one's
send is received by the only loop, and an `"auto"` request then starts a new loop, which
receives the second one's send. At rest `isRunning` is set and nothing bundles. A further
`"auto"` changes nothing, and a further `"manual"` waits for ever on `done`. -/
theorem overlapping_stops_strand_running {d : Driver} (hd : d.Consistent) :
    ∃ c, Relation.ReflTransGen Control.Step ⟨d, []⟩ c ∧ c.pending = [] ∧
      c.driver.isRunning = true ∧ c.driver.bundling = false ∧ c.driver.run = c.driver ∧
      c.driver.stop = none := by
  obtain ⟨acts, hacts⟩ := Control.run_refines d
  obtain ⟨t, ht, hl⟩ := hd.run.1.running hd.run.2
  let n := d.run.nextTicker
  refine ⟨⟨⟨true, some n, [], n + 1⟩, []⟩,
    (Control.run_reflTransGen _ hacts).trans (Control.run_reflTransGen [.beginStop,
      .beginStop, .clear, .clear, .send ⟨t, false⟩, .beginRun, .start, .send ⟨n, true⟩] ?_),
    rfl, rfl, rfl, rfl, rfl⟩
  simp [Control.run, Control.step, Driver.startLoop, Driver.clearAndStop, Driver.receive,
    hd.run.2, ht, hl, n]

/-! ### The debug endpoints -/

namespace Debug

/-- `SetBundlingMode(mode)`, run to its end: its reply and the driver it leaves; `none` when
its `Stop` waits for ever on `done`. -/
def setBundlingMode (mode : String) (d : Driver) : Option (Except GoError String × Driver) :=
  if mode = "manual" then d.stop.map fun d' => (.ok "ok", d')
  else if mode = "auto" then some (.ok "ok", d.run)
  else some (.error (.text ("debug: unrecognized mode " ++ mode)), d)

/-- Serialised `SetBundlingMode` requests, each run to its end: the driver they leave, `none`
when one of them waits for ever. -/
def setBundlingModes (modes : List String) (d : Driver) : Option Driver :=
  modes.foldlM (fun d mode => (setBundlingMode mode d).map Prod.snd) d

/-- One request on a consistent driver returns, and leaves it consistent: running after
`"auto"`, stopped after `"manual"`, and as it was after any other mode. -/
theorem setBundlingMode_consistent (mode : String) {d : Driver} (hd : d.Consistent) :
    ∃ r d', setBundlingMode mode d = some (r, d') ∧ d'.Consistent ∧
      d'.isRunning = if mode = "auto" then true else if mode = "manual" then false
        else d.isRunning := by
  unfold setBundlingMode
  by_cases hm : mode = "manual"
  · obtain ⟨d', hs, hd', hr⟩ := hd.stop
    exact ⟨.ok "ok", d', by simp [hm, hs], hd', by simp [hm, hr]⟩
  · by_cases ha : mode = "auto"
    · exact ⟨.ok "ok", d.run, by simp [ha], hd.run.1, by simp [ha, hd.run.2]⟩
    · exact ⟨.error (.text ("debug: unrecognized mode " ++ mode)), d, by simp [hm, ha], hd,
        by simp [hm, ha]⟩

/-- **The bundler bundles exactly when the last recognised mode was `"auto"`**: serialised
`SetBundlingMode` requests on a consistent driver all return, and leave it consistent and
running exactly when the last `"auto"` or `"manual"` among them was `"auto"`; with neither
among them, running as before. -/
theorem setBundlingModes_isRunning (modes : List String) {d : Driver} (hd : d.Consistent) :
    ∃ d', setBundlingModes modes d = some d' ∧ d'.Consistent ∧
      d'.bundling = d'.isRunning ∧
      d'.isRunning = (((modes.filter fun m => m = "auto" ∨ m = "manual").getLast?.map
        fun m => decide (m = "auto")).getD d.isRunning) := by
  induction modes using List.reverseRecOn with
  | nil => exact ⟨d, rfl, hd, hd.bundling_eq, rfl⟩
  | append_singleton modes mode ih =>
    obtain ⟨d₁, h₁, hd₁, -, hr₁⟩ := ih
    obtain ⟨r, d', h', hd', hr'⟩ := setBundlingMode_consistent mode hd₁
    refine ⟨d', ?_, hd', hd'.bundling_eq, ?_⟩
    · rw [setBundlingModes] at h₁
      simp [setBundlingModes, List.foldlM_append, h₁, h']
    · rw [hr', hr₁, List.filter_append]
      by_cases ha : mode = "auto"
      · simp [ha]
      · by_cases hm : mode = "manual" <;> simp [ha, hm]

/-- From the driver `main` starts: `"manual"`, an unknown mode and `"auto"` leave it
running. -/
theorem setBundlingModes_manual_then_auto :
    Driver.new.run.Consistent ∧ ∃ d', setBundlingModes ["manual", "pause", "auto"]
      Driver.new.run = some d' ∧ d'.Consistent ∧ d'.bundling = d'.isRunning ∧
      d'.isRunning = ((((["manual", "pause", "auto"] : List String).filter
        fun m => m = "auto" ∨ m = "manual").getLast?.map
          fun m => decide (m = "auto")).getD Driver.new.run.isRunning) :=
  ⟨Driver.new_run_consistent, setBundlingModes_isRunning _ Driver.new_run_consistent⟩

/-- `SendBundleNow`: `Process` on the middleware of the debug API, and the hash its context
holds under `txn_hash`. -/
def sendBundleNow {σ : Type} (b : Bundler σ) (ep : Address) (db : σ)
    (mempool : List AiOperation) : RunResult σ × Except GoError String :=
  (b.process ep db mempool,
    match (b.process ep db mempool).result with
    | .error e => .error e
    | .ok none => .ok ""
    | .ok (some ctx) =>
      match ctx.data.lookup "txn_hash" with
      | some hash => .ok hash
      | none => .error (.text "txn_hash not in ctx Data"))

/-- **What `SendBundleNow` replies**, after a run of `Process`: a hash only when the run
returned a context holding that hash. When the run returned a context without one (its
submitter sent nothing), the reply is the error `txn_hash not in ctx Data`, although the run
removed that context's ops from the mempool. -/
theorem sendBundleNow_reply {σ : Type} (b : Bundler σ) (ep : Address) (db : σ)
    (m : List AiOperation) :
    (∀ hash, hash ≠ "" → (sendBundleNow b ep db m).2 = .ok hash →
      ∃ ctx, (b.process ep db m).result = .ok (some ctx) ∧
        ctx.data.lookup "txn_hash" = some hash) ∧
    (∀ ctx, (b.process ep db m).result = .ok (some ctx) → ctx.data.lookup "txn_hash" = none →
      (sendBundleNow b ep db m).2 = .error (.text "txn_hash not in ctx Data") ∧
      (sendBundleNow b ep db m).1.mempool = m.filter (· ∉ ctx.ops)) := by
  refine ⟨fun hash hne h => ?_, fun ctx hp hl => ?_⟩
  · simp only [sendBundleNow] at h
    split at h
    · cases h
    · cases h; exact absurd rfl hne
    · rename_i ctx hp
      split at h
      · cases h; exact ⟨ctx, hp, by assumption⟩
      · cases h
  · have hm := Bundler.process_mempool b ep db m
    rw [hp] at hm
    simp [sendBundleNow, hp, hl, hm]

end Debug

end AiopsBundler
