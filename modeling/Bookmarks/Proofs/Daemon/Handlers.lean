import Bookmarks.Daemon.Methods
import Bookmarks.Proofs.Daemon.Announcements

/-!
What a frame does to those who listen: it makes one subscriber more, or it announces a change to all of them,
or it does nothing to them.
-/
set_option autoImplicit false

namespace Bookmarks

open Bookmarks.Json (Value Decoder Source)

namespace Daemon

variable {ω σ : Type}

-- What a lone subscriber that reads nothing is told by a call.
def announced (call : Daemon ω σ → Daemon ω σ) (daemon : Daemon ω σ) : List Change :=
  ((call { daemon with hub := ⟨1, [⟨0, true, []⟩]⟩ }).hub.find? 0).elim [] (·.unread)

theorem announced_eq {call : Daemon ω σ → Daemon ω σ} {daemon : Daemon ω σ} {changes : List Change}
    (announces : Announces call daemon changes) (few : changes.length ≤ 1) : announced call daemon = changes := by
  have told := announces ⟨1, [⟨0, true, []⟩]⟩
  rw [Hub.broadcast_all_lone 0 [] changes 1 (Nat.zero_le _), List.nil_append,
    List.take_of_length_le (Nat.le_trans few (by decide))] at told
  simp [announced, told, Hub.find?]

-- Whatever is asked, one change is announced at most, and nothing else is done to the subscribers.
def Broadcasting (handle : Handler (Daemon ω σ)) : Prop :=
  ∀ now given daemon, ∃ changes, changes.length ≤ 1 ∧
    Announces (fun daemon => (handle now daemon given).2) daemon changes

theorem Aloof.broadcasting {handle : Handler (Daemon ω σ)}
    (aloof : ∀ now given, Aloof fun daemon => handle now daemon given) : Broadcasting handle :=
  fun now given daemon => ⟨[], Nat.zero_le _, (aloof now given).announces daemon⟩

section

variable [WrittenOrd ω]

theorem search_broadcasting : Broadcasting (handleSearch : Handler (Daemon ω σ)) := by
  refine Aloof.broadcasting ?_
  intro now given daemon hub
  simp only [handleSearch]
  cases params SearchParams.decoder (given.getD (.obj [])) with
  | error fault => rfl
  | ok search => rfl

theorem batch_broadcasting : Broadcasting (handleBatch : Handler (Daemon ω σ)) := by
  intro now given daemon
  simp only [handleBatch]
  cases params batchDecoder given with
  | error fault => exact ⟨[], Nat.zero_le _, fun hub => rfl⟩
  | ok batch =>
      cases checked : daemon.check batch with
      | ok before =>
          obtain ⟨loaded, _⟩ := check_ok checked
          rcases apply_announces loaded now batch with ⟨_, announces⟩ | ⟨_, change, _, announces, _⟩
          · exact ⟨[], Nat.zero_le _, announces⟩
          · exact ⟨[change], Nat.le_refl _, announces⟩
      | error failure =>
          refine ⟨[], Nat.zero_le _, ?_⟩
          intro hub
          have refused : ({ daemon with hub } : Daemon ω σ).check batch = .error failure := checked
          simp only [apply, refused]
          rfl

theorem pull_broadcasting : Broadcasting (handlePull : Handler (Daemon ω σ)) := by
  intro now given daemon
  cases loaded : daemon.store.load with
  | ok before =>
      rcases pull_discloses loaded now with ⟨_, _, announces⟩ | ⟨after, _, _, announces⟩
      · exact ⟨[], Nat.zero_le _, announces⟩
      · refine ⟨_, ?_, announces⟩
        split
        · exact Nat.zero_le _
        · exact Nat.le_refl _
  | error failure =>
      refine ⟨[], Nat.zero_le _, ?_⟩
      intro hub
      simp only [handlePull, pull, tree, loaded]
      rfl

end

structure Listened (methods : Methods (Daemon ω σ)) : Prop where
  single : ∀ name handle, methods.singles.get? name = some handle → Broadcasting handle
  stream : ∀ name opener, methods.streams.get? name = some opener → name = "subscribe_events" ∧ opener = openEvents

theorem Listened.add {methods : Methods (Daemon ω σ)} (listened : Listened methods) (name : String)
    {handle : Handler (Daemon ω σ)} (broadcasting : Broadcasting handle) : Listened (methods.add name handle) where
  single := by
    intro other found named
    rw [Methods.add, Keyed.get?_insert] at named
    split at named
    · cases named
      exact broadcasting
    · exact listened.single other found named
  stream := listened.stream

theorem listened_none : Listened (Methods.none : Methods (Daemon ω σ)) := ⟨fun _ _ => nofun, fun _ _ => nofun⟩

theorem Listened.add_events {methods : Methods (Daemon ω σ)} (listened : Listened methods) :
    Listened (methods.addStream "subscribe_events" openEvents) where
  single := listened.single
  stream := by
    intro other found named
    rw [Methods.addStream, Keyed.get?_insert] at named
    split at named
    · rename_i same
      cases named
      exact ⟨same.symm, rfl⟩
    · exact listened.stream other found named

theorem methods_listened [WrittenOrd ω] : Listened (methods : Methods (Daemon ω σ)) :=
  listened_none.add "ping" (Aloof.broadcasting fun _ _ _ _ => rfl)
    |>.add "get_tree" (Aloof.broadcasting fun _ _ _ _ => rfl)
    |>.add "apply_ops" batch_broadcasting
    |>.add "search" search_broadcasting
    |>.add "vcs_status" (Aloof.broadcasting fun _ _ _ _ => rfl)
    |>.add "vcs_push" (Aloof.broadcasting fun _ _ _ _ => rfl)
    |>.add "vcs_pull" pull_broadcasting
    |>.add_events

theorem hub_of_announced {call : Daemon ω σ → Daemon ω σ} {daemon : Daemon ω σ}
    (told : ∃ changes, changes.length ≤ 1 ∧ Announces call daemon changes) :
    (call daemon).hub = daemon.hub.broadcastAll (announced call daemon) := by
  obtain ⟨changes, few, announces⟩ := told
  rw [announced_eq announces few]
  exact announces daemon.hub

section

variable [WrittenOrd ω]

theorem dispatch_single {request : Request} {handle : Handler (Daemon ω σ)}
    (found : methods.singles.get? request.method = some handle) (now : Int) (daemon : Daemon ω σ) (trace : String) :
    (methods.dispatch now daemon trace request).1.feed = none ∧
      (methods.dispatch now daemon trace request).2 = (handle now daemon request.params).2 := by
  simp only [Methods.dispatch, Methods.find?, found]
  cases handle now daemon request.params with
  | mk outcome next => cases outcome <;> exact ⟨rfl, rfl⟩

-- What comes of a request: a subscription and its acknowledgement, or an answer and what all are told.
theorem dispatch_told (now : Int) (daemon : Daemon ω σ) (trace : String) (request : Request) :
    (request.method = "subscribe_events" ∧ methods.dispatch now daemon trace request =
      (⟨.success request.id trace (.obj [("subscribed", .bool true)]),
        some (.subscription daemon.hub.register.1)⟩, { daemon with hub := daemon.hub.register.2 })) ∨
    request.method ≠ "subscribe_events" ∧ (methods.dispatch now daemon trace request).1.feed = none ∧
      ∃ changes, changes.length ≤ 1 ∧
        Announces (fun daemon => (methods.dispatch now daemon trace request).2) daemon changes := by
  cases single : (methods : Methods (Daemon ω σ)).singles.get? request.method with
  | some handle =>
      refine Or.inr ⟨?_, (dispatch_single single now daemon trace).1, ?_⟩
      · intro named
        rw [named] at single
        cases single
      · simp only [Announces, (dispatch_single single now _ trace).2]
        exact methods_listened.single _ _ single now request.params daemon
  | none =>
      cases stream : (methods : Methods (Daemon ω σ)).streams.get? request.method with
      | some opener =>
          obtain ⟨named, rfl⟩ := methods_listened.stream _ _ stream
          refine Or.inl ⟨named, ?_⟩
          simp only [Methods.dispatch, Methods.find?, single, stream, Option.map_some, openEvents]
      | none =>
          refine Or.inr ⟨?_, ?_⟩
          · intro named
            rw [named] at stream
            cases stream
          · simp only [Methods.dispatch, Methods.find?, single, stream, Option.map_none]
            exact ⟨trivial, [], Nat.zero_le _, fun _ => rfl⟩

-- The frame is a request for a subscription.
def Subscribes (payload : Bytes) : Prop :=
  ∃ request, Decoder.ofSource Request.decoder (Source.ofBytes payload) = .ok request ∧
    request.method = "subscribe_events"

theorem answer_told (now : Int) (daemon : Daemon ω σ) (trace : String) (payload : Bytes) :
    (Subscribes payload ∧ ∃ id, methods.answer now daemon trace payload =
      (⟨.success id trace (.obj [("subscribed", .bool true)]), some (.subscription daemon.hub.register.1)⟩,
        { daemon with hub := daemon.hub.register.2 })) ∨
    ¬ Subscribes payload ∧ (methods.answer now daemon trace payload).1.feed = none ∧
      (methods.answer now daemon trace payload).2.hub =
        daemon.hub.broadcastAll (announced (fun daemon => (methods.answer now daemon trace payload).2) daemon) := by
  cases decoded : Decoder.ofSource Request.decoder (Source.ofBytes payload) with
  | error problem =>
      have silent : Announces (fun daemon => ((methods : Methods (Daemon ω σ)).answer now daemon trace payload).2)
          daemon [] := by
        intro hub
        simp only [Methods.answer, decoded]
        rfl
      refine Or.inr ⟨?_, ?_, hub_of_announced ⟨[], Nat.zero_le _, silent⟩⟩
      · rintro ⟨request, read, _⟩
        rw [decoded] at read
        cases read
      · simp only [Methods.answer, decoded]
  | ok request =>
      have answered : ∀ daemon, methods.answer now daemon trace payload =
          (methods : Methods (Daemon ω σ)).dispatch now daemon trace request := by
        intro daemon
        simp only [Methods.answer, decoded]
      simp only [answered]
      rcases dispatch_told now daemon trace request with ⟨named, opened⟩ | ⟨other, single, told⟩
      · exact Or.inl ⟨⟨request, decoded, named⟩, request.id, opened⟩
      · refine Or.inr ⟨?_, single, hub_of_announced told⟩
        rintro ⟨also, read, named⟩
        rw [decoded] at read
        cases read
        exact other named

end

end Daemon

end Bookmarks
