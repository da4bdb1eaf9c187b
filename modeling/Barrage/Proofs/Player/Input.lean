import Barrage.Proofs.Player.Drawing

/-!
# Input of the player

Of all keys only those that quit and those that pause have an effect, and of
the player an event changes at most its pause and the size of its terminal
(`Player.attend_eq`).  Keys that do not quit leave it paused or not by their
number of toggles alone (`Player.attend_keys`), and each toggle draws the
status anew.

Events that arrive together are handled as if the later ones had arrived
afterwards (`Player.attend_append`), except that nothing is handled after a key
that quits.
-/

namespace Barrage

open Barrage.Terminal

/-! ## Keys -/

namespace Terminal.Key

/-- The keys that end a session: `q`, escape, and `c` together with the control key. -/
def asksToQuit (key : Key) : Bool :=
  key.pressed &&
    (key.code == .character 'q' || key.code == .escape ||
      (key.code == .character 'c' && key.control))

/-- The key that pauses playback and lets it go on: space. -/
def togglesPause (key : Key) : Bool :=
  key.pressed && key.code == .character ' '

end Terminal.Key

namespace Player

theorem actionOf_eq (key : Key) :
    actionOf key =
      if key.asksToQuit then .quit else if key.togglesPause then .togglePause else .proceed := by
  obtain ⟨code, control, pressed⟩ := key
  cases pressed with
  | false => rfl
  | true =>
      rw [actionOf, if_pos rfl]
      split <;> simp_all [Key.asksToQuit, Key.togglesPause]

/-! ## Handling events -/

/-- The player, paused or not. -/
def withPause
    (player : Player)
    (paused : Bool) : Player :=
  { player with paused := paused }

theorem drawStatus_withPause
    (player : Player)
    (paused : Bool) :
    (player.withPause paused).drawStatus = player.statusRedraw paused :=
  (player.withPause paused).drawStatus_eq

theorem handle_key
    (player : Player)
    (key : Key) :
    player.handle (.key key) =
      if key.asksToQuit then .quit
      else if key.togglesPause then
        .proceed (player.withPause !player.paused) (player.statusRedraw !player.paused)
      else .proceed player [] := by
  rw [handle, actionOf_eq, ← drawStatus_withPause]
  by_cases quits : key.asksToQuit
  · rw [if_pos quits, if_pos quits]
  · rw [if_neg quits, if_neg quits]
    by_cases toggles : key.togglesPause
    · rw [if_pos toggles, if_pos toggles]
      rfl
    · rw [if_neg toggles, if_neg toggles]

/-- An event changes at most the pause and the size of the terminal. -/
theorem handle_eq
    {player next : Player}
    {event : PlayerEvent}
    {output : List Command}
    (handled : player.handle event = .proceed next output) :
    next = { player with paused := next.paused, terminal := next.terminal } := by
  cases event with
  | key key =>
      rw [handle_key] at handled
      split at handled
      next => cases handled
      next => split at handled <;> cases handled <;> rfl
  | resized size =>
      cases handled
      rfl

theorem attend_eq
    (player : Player)
    (events : List PlayerEvent) :
    (player.attend events).player =
      { player with
        paused := (player.attend events).player.paused
        terminal := (player.attend events).player.terminal } := by
  induction events generalizing player with
  | nil => rfl
  | cons event rest ih =>
      rw [attend]
      cases handled : player.handle event with
      | quit => rfl
      | proceed next output =>
          have later := ih next
          rw [handle_eq handled] at later ⊢
          exact later

theorem ticks_attend
    (player : Player)
    (events : List PlayerEvent) :
    (player.attend events).player.ticks = player.ticks := by
  rw [attend_eq]

theorem attend_append
    (player : Player)
    (first second : List PlayerEvent) :
    player.attend (first ++ second) =
      let attended := player.attend first
      let later := attended.player.attend second
      if attended.stopped then attended
      else { later with output := attended.output ++ later.output } := by
  induction first generalizing player with
  | nil => rfl
  | cons event rest ih =>
      rw [List.cons_append, attend, attend]
      cases player.handle event with
      | quit => rfl
      | proceed next output =>
          simp only [ih next]
          split
          next => rfl
          next => simp only [List.append_assoc]

/-- A key that quits stops the player, whatever was handled before. -/
theorem stopped_attend_quit
    (player : Player)
    (before : List PlayerEvent)
    {quit : Key}
    (asks : quit.asksToQuit) :
    (player.attend (before ++ [.key quit])).stopped = true := by
  have last (later : Player) : (later.attend [.key quit]).stopped = true := by
    rw [attend, handle_key, if_pos asks]
  rw [attend_append]
  by_cases stopped : (player.attend before).stopped
  · simp only [stopped, if_true]
  · simp only [if_neg stopped, last]

/-! ## Keys that do not quit -/

/-- Whether the player is paused after a number of toggles. -/
def pausedAfter
    (player : Player)
    (toggles : Nat) : Bool :=
  player.paused ^^ toggles % 2 == 1

@[simp]
theorem pausedAfter_zero (player : Player) : player.pausedAfter 0 = player.paused :=
  Bool.xor_false _

theorem pausedAfter_succ
    (player : Player)
    (toggles : Nat) :
    (player.withPause !player.paused).pausedAfter toggles = player.pausedAfter (toggles + 1) := by
  have parityFlips : (toggles % 2 == 1) = !((toggles + 1) % 2 == 1) := by
    rcases Nat.mod_two_eq_zero_or_one toggles with even | odd <;> simp [*, Nat.add_mod]
  rw [pausedAfter, parityFlips, withPause, pausedAfter]
  cases player.paused <;> simp

/-- What the player sends for some toggles. -/
def redraws
    (player : Player)
    (toggles : Nat) : List Command :=
  (List.range toggles).flatMap fun earlier => player.statusRedraw (player.pausedAfter (earlier + 1))

theorem redraws_succ
    (player : Player)
    (toggles : Nat) :
    player.redraws (toggles + 1) =
      player.statusRedraw (!player.paused) ++
        (player.withPause !player.paused).redraws toggles := by
  rw [redraws, List.range_succ_eq_map, List.flatMap_cons, List.flatMap_map, redraws]
  simp only [pausedAfter_succ]
  rw [← pausedAfter_succ, pausedAfter_zero]
  rfl

/-- What the toggles of a player that is not paused draw begins with the mark of a pause. -/
theorem redraws_of_playing
    {player : Player}
    (playing : player.paused = false)
    (toggles : Nat) :
    player.redraws toggles =
      (List.range toggles).flatMap fun earlier => player.statusRedraw (earlier % 2 == 0) := by
  have alternate (earlier : Nat) : player.pausedAfter (earlier + 1) = (earlier % 2 == 0) := by
    rw [pausedAfter, playing, Bool.false_xor]
    rcases Nat.mod_two_eq_zero_or_one earlier with even | odd <;> simp [*, Nat.add_mod]
  simp only [redraws, alternate]

/-- Keys that do not quit leave behind a pause or none, and what their toggles have drawn. -/
theorem attend_keys
    (player : Player)
    {keys : List Key}
    (staying : ∀ key ∈ keys, key.asksToQuit = false) :
    player.attend (keys.map .key) =
      ⟨player.withPause (player.pausedAfter (keys.countP Key.togglesPause)),
        player.redraws (keys.countP Key.togglesPause), false⟩ := by
  induction keys generalizing player with
  | nil =>
      rw [List.countP_nil, pausedAfter_zero]
      rfl
  | cons key rest ih =>
      have stays := staying key List.mem_cons_self
      have later (next : Player) := ih next fun other member =>
        staying other (List.mem_cons_of_mem _ member)
      rw [List.map_cons, attend, handle_key, stays, if_neg Bool.false_ne_true]
      by_cases toggles : key.togglesPause
      · rw [List.countP_cons_of_pos toggles, if_pos toggles]
        simp only [later, redraws_succ, pausedAfter_succ]
        rfl
      · rw [List.countP_cons_of_neg toggles, if_neg toggles]
        simp only [later, List.nil_append]

end Player

end Barrage
