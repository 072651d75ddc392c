import VideoSurvey.Json.Printer

/-!
# Hosts

The player that an overlay runs in offers up to four capabilities: it files events, tells the
playback time, moves the playback and hides the overlay. A host gives each capability as a step of
its own state, so that whatever a host does is a function. Three hosts are at hand: one that
records every call, one without any capability, and one that files events only.
-/

set_option autoImplicit false

namespace VideoSurvey.Wizard

/-- What a step captured. -/
inductive Captured where
  | feedback (text : String)
  | text (text : String)
deriving DecidableEq, Repr

/-- An event for the host's tracker. -/
structure Event where
  id : String
  name : String
  group : String
  value : Captured
  eventType : String
  event : String
  offset : Int
deriving DecidableEq, Repr

/-- The member that holds what was captured. -/
def Captured.member : Captured → String × Json
  | .feedback s => ("feedback", .str s)
  | .text s => ("text", .str s)

/-- An event as JSON, in the order in which the tracker receives its members. -/
def Event.toJson (e : Event) : Json :=
  .obj [("id", .str e.id), ("name", .str e.name), ("group", .str e.group), e.value.member,
    ("type", .str e.eventType), ("event", .str e.event), ("offset", Json.ofInt e.offset)]

/-- Capabilities of a host with states in `σ`. -/
structure Host (σ : Type) where
  /-- Files an event under a channel. -/
  track : String → Event → σ → σ
  /-- The playback time, if the host tells it. -/
  currentTime : σ → Option Int × σ
  /-- Moves the playback. -/
  seekTo : Int → σ → σ
  /-- Hides the overlay. -/
  hide : σ → σ

/-- A call of a capability. -/
inductive HostCall where
  | track (channel : String) (event : Event)
  | seekTo (offset : Int)
  | hide
deriving DecidableEq, Repr

/-- The event of a call that files one. -/
def HostCall.event? : HostCall → Option Event
  | .track _ event => some event
  | _ => none

/-- What the recording host remembers: the playback time it tells, and the calls in their order. -/
structure Recording where
  playbackOffset : Int
  calls : List HostCall
deriving DecidableEq, Repr

/-- The recording of a host that was not called yet. -/
def Recording.start : Recording := ⟨0, []⟩

/-- One more call. -/
def Recording.add (call : HostCall) (r : Recording) : Recording :=
  { r with calls := r.calls ++ [call] }

/-- The events that were filed. -/
def Recording.events (r : Recording) : List Event := r.calls.filterMap HostCall.event?

/-- A host that records every call. -/
def recordingHost : Host Recording where
  track channel event := Recording.add (.track channel event)
  currentTime r := (some r.playbackOffset, r)
  seekTo offset := Recording.add (.seekTo offset)
  hide := Recording.add .hide

/-- A host without any capability. -/
def detachedHost : Host Unit where
  track _ _ := id
  currentTime s := (none, s)
  seekTo _ := id
  hide := id

/-- A host that files events in its own way, and has no other capability. -/
def Host.trackOnly {σ : Type} (track : String → Event → σ → σ) : Host σ where
  track := track
  currentTime s := (none, s)
  seekTo _ := id
  hide := id

/-- A host that records the events it is given to file, and has no other capability. -/
def trackingHost : Host Recording :=
  .trackOnly fun channel event => Recording.add (.track channel event)

end VideoSurvey.Wizard
