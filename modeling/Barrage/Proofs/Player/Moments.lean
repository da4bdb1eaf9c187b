import Barrage.Proofs.Player.Pausing

/-!
# The moments of a run

Every moment of a run is a tick or the handling of an event, made by a player
that follows playback (`Session.exists_makes_of_mem_moments`).  So what is to
be known of everything that a session sends has to be shown for these two
alone, besides the start.
-/

namespace Barrage

open Barrage.Terminal

variable {schedule : Schedule} {settings : Settings}

namespace Player

/-- A moment that a player may make next. -/
inductive Makes (player : Player) : Moment → Prop
  | tick : player.Makes ⟨player.tick.player, false, player.tick.output⟩
  | handle
      {event : PlayerEvent}
      {next : Player}
      {output : List Command}
      (handled : player.handle event = .proceed next output) :
      player.Makes ⟨next, event.isResize, output⟩

variable {player : Player} {moment : Moment}

theorem Follows.of_makes
    (follows : player.Follows schedule settings)
    (made : player.Makes moment) :
    moment.player.Follows schedule settings := by
  cases made with
  | tick => exact follows.tick
  | handle handled => exact follows.handle handled

/-- The player before a moment follows playback, if it did so before the events. -/
theorem exists_makes_of_mem_moments
    (follows : player.Follows schedule settings)
    {events : List PlayerEvent}
    (member : moment ∈ player.moments events) :
    ∃ earlier : Player, earlier.Follows schedule settings ∧ earlier.Makes moment := by
  induction events generalizing player with
  | nil => cases member
  | cons event rest ih =>
      rw [moments] at member
      cases handled : player.handle event with
      | quit =>
          rw [handled] at member
          cases member
      | proceed next output =>
          rw [handled] at member
          rcases List.mem_cons.mp member with rfl | later
          · exact ⟨player, follows, .handle handled⟩
          · exact ih (follows.handle handled) later

end Player

namespace Session

variable {session : Session}

theorem exists_makes_of_mem_turnMoments
    (follows : session.player.Follows schedule settings)
    {events : List PlayerEvent}
    {moment : Moment}
    (member : moment ∈ session.turnMoments events) :
    ∃ earlier : Player, earlier.Follows schedule settings ∧ earlier.Makes moment := by
  rw [turnMoments] at member
  by_cases ended : session.outcome.isSome
  · rw [if_pos ended] at member
    cases member
  rw [if_neg ended] at member
  by_cases paused : session.player.paused
  · rw [if_pos paused] at member
    exact Player.exists_makes_of_mem_moments follows member
  rw [if_neg paused] at member
  rcases List.mem_cons.mp member with rfl | later
  · exact ⟨session.player, follows, .tick⟩
  · split at later
    next => cases later
    next => exact Player.exists_makes_of_mem_moments follows.tick later

theorem exists_makes_of_mem_moments
    (follows : session.player.Follows schedule settings)
    {turns : List (List PlayerEvent)}
    {moment : Moment}
    (member : moment ∈ session.moments turns) :
    ∃ earlier : Player, earlier.Follows schedule settings ∧ earlier.Makes moment := by
  induction turns generalizing session with
  | nil => cases member
  | cons events rest ih =>
      rcases List.mem_append.mp member with now | later
      · exact exists_makes_of_mem_turnMoments follows now
      · exact ih (follows_turn follows events) later

theorem follows_of_mem_moments
    (follows : session.player.Follows schedule settings)
    {turns : List (List PlayerEvent)}
    {moment : Moment}
    (member : moment ∈ session.moments turns) :
    moment.player.Follows schedule settings := by
  obtain ⟨earlier, followsEarlier, made⟩ := exists_makes_of_mem_moments follows member
  exact followsEarlier.of_makes made

end Session

end Barrage
