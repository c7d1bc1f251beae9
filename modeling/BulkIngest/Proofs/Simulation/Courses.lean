import BulkIngest.Proofs.Run.Conservation
import BulkIngest.Simulation.Run

/-!
Runs on the clock are runs of the machine. Whatever the source, the sink and the clock bring about,
the machine of a world changes by its own steps only, so what holds after every list of actions
holds at every moment of a run on the clock and of its summary.
-/

namespace BulkIngest.Simulation.World

/-- The machine of the second world is that of the first one after some actions. -/
def Follows (w w' : World) : Prop := ∃ actions, w.machine.run? actions = some w'.machine

variable {w w' w'' : World}

theorem follows_of_eq (same : w'.machine = w.machine) : Follows w w' :=
  ⟨[], congrArg some same.symm⟩

theorem Follows.refl (w : World) : Follows w w := follows_of_eq rfl

theorem Follows.trans (h : Follows w w') (h' : Follows w' w'') : Follows w w'' := by
  obtain ⟨first, run⟩ := h
  obtain ⟨second, run'⟩ := h'
  refine ⟨first ++ second, ?_⟩
  rw [Machine.run?_append, run, Option.bind_some, run']

/-- What happens to the rest of the world does not matter. -/
theorem Follows.congr (h : Follows w w') (same : w''.machine = w'.machine) : Follows w w'' :=
  h.trans (follows_of_eq same)

/-- What the rest of the world was like does not matter. -/
theorem Follows.congr_left (h : Follows w' w'') (same : w'.machine = w.machine) : Follows w w'' :=
  (follows_of_eq same).trans h

theorem follows_act (w : World) (action : Action) : Follows w (w.act action) := by
  simp only [act]
  split
  · rename_i machine step
    refine ⟨[action], ?_⟩
    rw [Machine.run?_cons, step]
    rfl
  · exact .refl w

@[simp]
theorem machine_enqueue (w : World) (events : List Event) :
    (w.enqueue events).machine = w.machine := rfl

@[simp]
theorem machine_setAlarm (w : World) (due : Nat) (event : Event) :
    (w.setAlarm due event).machine = w.machine := rfl

@[simp]
theorem machine_giveWay (w : World) (event : Event) : (w.giveWay event).machine = w.machine := rfl

@[simp]
theorem machine_interruptRests (w : World) : w.interruptRests.machine = w.machine := rfl

@[simp]
theorem machine_turnOver (w : World) : w.turnOver.machine = w.machine := rfl

@[simp]
theorem machine_wakeDriver (w : World) (waitsFor : Driver) :
    (w.wakeDriver waitsFor).machine = w.machine := by
  simp only [wakeDriver]
  split <;> rfl

@[simp]
theorem machine_callSupplier (w : World) : w.callSupplier.machine = w.machine := by
  simp only [callSupplier]
  split
  · split <;> rfl
  · rfl

@[simp]
theorem machine_ring (w : World) (alarm : Alarm) : (w.ring alarm).machine = w.machine := by
  simp only [ring]
  split <;> simp

@[simp]
theorem machine_advance (w : World) (time : Nat) : (w.advance time).machine = w.machine := by
  have rung : ∀ (alarms : List Alarm) (w : World), (alarms.foldl ring w).machine = w.machine := by
    intro alarms
    induction alarms with
    | nil => exact fun _ => rfl
    | cons alarm rest ih => exact fun w => (ih (w.ring alarm)).trans (w.machine_ring alarm)
  simp only [advance, rung]

theorem follows_cancelRun (w : World) : Follows w w.cancelRun := by
  simp only [cancelRun]
  split
  · exact .refl w
  · exact (follows_act w .cancel).congr (by simp)

theorem follows_hear (w : World) (sequence : Nat) (reply : Reply) :
    Follows w (w.hear sequence reply) := by
  have called : Follows w (if reply.cancels then w.cancelRun else w) := by
    split
    · exact follows_cancelRun w
    · exact .refl w
  simp only [hear]
  split
  · exact called.trans (follows_act _ _)
  · exact called

theorem follows_awaitDeadline (w : World) (s : Submission) (allowance : Nat) :
    Follows w (w.awaitDeadline s allowance).1 := by
  simp only [awaitDeadline]
  split
  · exact follows_of_eq rfl
  · split
    · exact follows_of_eq rfl
    · exact follows_act w _

theorem follows_settle (w : World) (s : Submission) (reply : Reply) (allowance : Nat) :
    Follows w (w.settle s reply allowance).1 := by
  have heard := follows_hear w s.sequence reply
  simp only [settle]
  split
  · exact heard
  · exact heard.trans (follows_awaitDeadline _ s allowance)

theorem follows_settleAwoken (w : World) (s : Submission) (reply : Reply) (allowance : Nat) :
    Follows w (w.settleAwoken s reply allowance).1 := by
  simp only [settleAwoken]
  split
  · refine Follows.congr ?_ (machine_giveWay _ _)
    split
    · exact .refl w
    · exact follows_awaitDeadline w s allowance
  · split
    · exact follows_settle w s reply _
    · exact follows_settle w s reply _

theorem follows_settleLater (w : World) (s : Submission) (reply : Reply) (delay allowance : Nat) :
    Follows w (w.settleLater s reply delay allowance).1 := by
  refine Follows.trans ?_ (follows_awaitDeadline _ s allowance)
  split
  · exact .refl w
  · exact follows_of_eq (machine_setAlarm _ _ _)

theorem follows_receive (w : World) (s : Submission) (reply : Reply) (allowance : Nat) :
    Follows w (w.receive s reply allowance).1 := by
  simp only [receive]
  split
  · exact follows_settle w s reply allowance
  · exact follows_settleAwoken w s reply allowance
  · exact follows_settleLater w s reply _ allowance

theorem follows_request (w : World) (s : Submission) (allowance : Nat) :
    Follows w (w.request s allowance).1 := by
  simp only [request]
  split
  · exact (follows_act _ _).congr_left rfl
  · exact (follows_receive _ s _ allowance).congr_left rfl

theorem follows_proceed (fuel sequence allowance : Nat) (w : World) :
    Follows w (w.proceed fuel sequence allowance) := by
  induction fuel generalizing w allowance with
  | zero => exact .refl w
  | succ fuel ih =>
      simp only [proceed]
      split
      · exact .refl w
      · have sent := follows_act w (.send sequence)
        split
        · split
          · exact (sent.trans (follows_request _ _ _)).trans (ih _ _)
          · exact sent
        · split
          · exact (sent.trans (follows_request _ _ _)).trans (ih _ _)
          · exact sent
        · exact .refl w
        · split
          · exact follows_of_eq rfl
          · split
            · exact follows_of_eq rfl
            · exact (follows_act w _).trans (ih _ _)
        · exact follows_of_eq (machine_wakeDriver _ _)
        · exact follows_of_eq (machine_wakeDriver _ _)

theorem follows_handle (fuel : Nat) (w : World) (event : Event) :
    Follows w (w.handle fuel event) := by
  cases event with
  | begin sequence => exact follows_proceed _ _ _ w
  | respond sequence attempt reply =>
      simp only [handle]
      split
      · have heard := follows_hear w sequence reply
        split
        · exact (heard.trans (follows_act _ _)).trans (follows_proceed _ _ _ _)
        · exact heard.trans (follows_proceed _ _ _ _)
      · exact .refl w
  | expire sequence attempt =>
      simp only [handle]
      split
      · exact (follows_act w _).trans (follows_proceed _ _ _ _)
      · exact .refl w
  | restOver sequence attempt =>
      simp only [handle]
      split
      · exact (follows_act w _).trans (follows_proceed _ _ _ _)
      · exact .refl w
  | interrupt sequence => exact (follows_act w _).trans (follows_proceed _ _ _ _)
  | sourceReady => exact follows_of_eq (machine_wakeDriver _ _)
  | supply =>
      simp only [handle]
      split
      · exact follows_of_eq (machine_wakeDriver _ _)
      · exact .refl w
  | cancel => exact follows_cancelRun w

theorem follows_takePull (w : World) (pull : Pull) : Follows w (w.takePull pull) :=
  (follows_act w (.pull pull)).congr rfl

theorem follows_absorb (w : World) (sequence : Nat) : Follows w (w.absorb sequence) := by
  have absorbed := follows_act w (.absorb sequence)
  simp only [absorb]
  split
  · exact absorbed.congr (machine_interruptRests _)
  · exact absorbed

theorem follows_drive (fuel : Nat) (w : World) : Follows w (w.drive fuel) := by
  induction fuel generalizing w with
  | zero => exact .refl w
  | succ fuel ih =>
      simp only [drive]
      split
      · exact .refl w
      · split
        · exact (follows_act w .close).trans (ih _)
        · split
          · split
            · exact follows_of_eq rfl
            · split
              · exact follows_of_eq rfl
              · refine Follows.trans ?_ (ih _)
                exact (follows_absorb _ _).congr_left rfl
          · split
            · exact .refl w
            · split
              · exact (follows_act w .stop).trans (ih _)
              · split
                · refine Follows.trans ?_ (ih _)
                  rename_i pull cancels waited _
                  have taken := (follows_takePull _ pull).congr_left (w := w)
                    (machine_callSupplier { w with
                      feed := (w.feed.poll w.now).2, allowance := w.allowance - waited.toNat })
                  split
                  · exact taken.trans (follows_cancelRun _)
                  · exact taken
                · exact follows_of_eq rfl
                · exact follows_of_eq rfl
                · exact follows_of_eq rfl
                · exact (follows_cancelRun _).congr_left rfl

theorem follows_play (limit fuel : Nat) (w : World) : Follows w (w.play limit fuel) := by
  induction fuel generalizing w with
  | zero => exact .refl w
  | succ fuel ih =>
      simp only [play]
      split
      · exact Follows.congr_left ((follows_handle fuel _ _).trans (ih _)) rfl
      · have turned : Follows w w.turnOver := follows_of_eq (machine_turnOver w)
        split
        · have driven := turned.trans (follows_drive fuel _)
          split
          · exact driven
          · exact driven.trans ((ih _).congr_left rfl)
        · split
          · exact turned.trans (ih _)
          · split
            · exact turned.congr rfl
            · split
              · exact turned.congr rfl
              · exact (turned.congr (machine_advance _ _)).trans (ih _)

end BulkIngest.Simulation.World

namespace BulkIngest.Simulation

/-- A summary that a run on the clock brings is the summary of a machine that has finished. -/
theorem run_summary {config : PipelineConfig} {feed : Feed} {sink : Sink} {c : Circumstances}
    {summary : RunSummary} (h : (run config feed sink c).summary = some summary) :
    ∃ actions m, (Machine.start config c.cancelled).run? actions = some m ∧
      m.isFinished = true ∧ m.summary = summary := by
  simp only [run, Option.ite_none_right_eq_some, Option.some.injEq] at h
  obtain ⟨finished, rfl⟩ := h
  obtain ⟨actions, run⟩ := World.follows_play (c.start + patience) (stepsFor feed)
    (World.start config feed sink c)
  exact ⟨actions, _, run, finished, rfl⟩

/-- The summary of a run on the clock counts a success or a failure for each document it
attempted. -/
theorem attempted_of_summary {config : PipelineConfig} {feed : Feed} {sink : Sink}
    {c : Circumstances} {summary : RunSummary}
    (h : (run config feed sink c).summary = some summary) :
    summary.attempted = summary.succeeded + summary.failed := by
  obtain ⟨actions, m, run, -, rfl⟩ := run_summary h
  exact (Machine.summary_counts run).2.2

end BulkIngest.Simulation
