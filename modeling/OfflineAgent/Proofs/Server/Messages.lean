import OfflineAgent.Proofs.Interleaving.Awaiting
import OfflineAgent.Proofs.Json.Values
import OfflineAgent.Proofs.Lifecycle.Activation

/-!
# Messages to the agent

What a message asks for is the string under its one member `type`, wherever that member stands and
however it is written. The endpoint tells its version at once, and nothing but a message that asks
to skip waiting does anything at all: it sets the flag and, if the agent waits at that moment, goes
through an activation.
-/

namespace OfflineAgent

open Simulation Interleaving
open Lifecycle (beginning)

/-! ### What a message asks for -/

namespace ControlMessage

/-- The string under the one member `type` of an object. -/
def Names (members : List (String × Json.Value)) (type : String) : Prop :=
  ∃ front back, members = front ++ ("type", .string type) :: back ∧
    ∀ member ∈ front ++ back, member.1 ≠ "type"

section

variable {members : List (String × Json.Value)} {type : String}

theorem ofJson?_of_names (names : Names members type) :
    ofJson? (.object members) = some (ofType type) := by
  obtain ⟨front, back, rfl, hother⟩ := names
  have hnone (part : List (String × Json.Value)) (hpart : ∀ member ∈ part, member.1 ≠ "type") :
      part.filter (·.1 = "type") = [] :=
    List.filter_eq_nil_iff.mpr fun member hmem => by simpa using hpart member hmem
  have hfilter : (front ++ ("type", .string type) :: back).filter (·.1 = "type") =
      [("type", .string type)] := by
    rw [List.filter_append, hnone front fun member hmem => hother member (by simp [hmem]),
      List.filter_cons_of_pos (by simp),
      hnone back fun member hmem => hother member (by simp [hmem]), List.nil_append]
  rw [ofJson?, hfilter]

theorem ofJson?_of_not_names (hnot : ∀ type, ¬Names members type) :
    ofJson? (.object members) = none := by
  unfold ofJson?
  dsimp only
  split
  · rename_i name type hfilter
    obtain ⟨front, back, rfl, hfront, hname, hback⟩ := List.filter_eq_cons_iff.mp hfilter
    obtain rfl : name = "type" := by simpa using hname
    refine absurd ⟨front, back, rfl, fun member hmem => ?_⟩ (hnot type)
    obtain hmem | hmem := List.mem_append.mp hmem
    · simpa using hfront member hmem
    · simpa using List.filter_eq_nil_iff.mp hback member hmem
  · rfl

end

end ControlMessage

namespace Server

/-- A message to the endpoint that takes them, no longer than endpoints allow. -/
structure Incoming.IsMessage (incoming : Incoming) : Prop where
  path : incoming.target.path = "/__stowaway/message"
  method : incoming.method = "POST"
  size : incoming.body.size ≤ maxEndpointBody

/-- What the endpoint answers once the message is dealt with. -/
def acknowledge : Option VersionReply → Answer
  | some reply => .json reply.json
  | none => .empty 202

section

variable {agent : Agent} {incoming : Incoming}

theorem answer_message (message : incoming.IsMessage) :
    answer agent incoming =
      agent.control ((ControlMessage.parse? incoming.body).getD .unknown) >>= fun reply =>
        .done (acknowledge reply) := by
  have hpath : Endpoint.ofPath? incoming.target.path = some .message := by
    rw [message.path]
    rfl
  have hmethod : ¬incoming.method ≠ "POST" := not_not.mpr message.method
  unfold answer
  rw [hpath]
  dsimp only
  rw [if_neg hmethod, answerMessage, if_neg (not_lt.mpr message.size)]
  refine congrArg (_ >>= ·) (funext fun reply => ?_)
  cases reply <;> rfl

/-- **The grammar of messages.** However an object is written, it asks for what the string under its
one member `type` says. Without such a string it is no message, and the endpoint does with it what
it does with a message that it does not know. -/
theorem read_as_named {members : List (String × Json.Value)} {before text after : List UInt8}
    {body : ByteArray} (written : Json.Written 127 (.object members) text)
    (hbefore : Json.IsBlank before) (hafter : Json.IsBlank after)
    (hbody : body.toList = before ++ (text ++ after)) :
    (∀ type, ControlMessage.Names members type → ControlMessage.parse? body =
        some (if type = "SKIP_WAITING" then .skipWaiting
          else if type = "GET_VERSION" then .getVersion else .unknown)) ∧
      ((∀ type, ¬ControlMessage.Names members type) → ControlMessage.parse? body = none ∧
        ∀ agent incoming, incoming.IsMessage → incoming.body = body →
          answer agent incoming = .done (.empty 202) ∧
            ∀ other : Incoming, other.IsMessage →
              ControlMessage.parse? other.body = some .unknown →
                answer agent incoming = answer agent other) := by
  have hparse : ControlMessage.parse? body = ControlMessage.ofJson? (.object members) := by
    rw [ControlMessage.parse?, hbody, written.parse hbefore hafter]
  refine ⟨fun type names => ?_, fun hnot => ?_⟩
  · rw [hparse, ControlMessage.ofJson?_of_names names, ControlMessage.ofType]
  · have hnone : ControlMessage.parse? body = none := by
      rw [hparse, ControlMessage.ofJson?_of_not_names hnot]
    refine ⟨hnone, fun agent incoming message hsame => ?_⟩
    have hanswer : answer agent incoming = .done (.empty 202) := by
      rw [answer_message message, hsame, hnone]
      rfl
    refine ⟨hanswer, fun other hother hunknown => ?_⟩
    rw [hanswer, answer_message hother, hunknown]
    rfl

end

namespace Intercom

open Json (Member Value WrittenString)

/-- A member that holds a member `type` of its own. -/
def aside : Member :=
  let value : Value := .array [.object [("type", .string "GET_VERSION")]]
  ⟨[], "a", Utf8.bytes (Json.quote "a"), [0x20], ⟨[], value, Utf8.bytes value.chars, [0x20]⟩⟩

/-- The member `type`, with one of its letters written as a number. -/
def request : Member where
  before := [0x0A]
  name := "type"
  text := Utf8.bytes ['"', 't', '\\', 'u', '0', '0', '7', '9', 'p', 'e', '"']
  after := []
  piece := ⟨[0x20], .string "SKIP_WAITING", Utf8.bytes (Json.quote "SKIP_WAITING"), []⟩

def letter : List UInt8 :=
  0x7B :: (aside.bytes ++ Member.following [request])

theorem writtenString_request : WrittenString request.name request.text := by
  have hdigits : Json.HexFour 'y'.toNat [0x30, 0x30, 0x37, 0x39] :=
    .mk (a := 0) (b := 0) (c := 7) (d := 9) (.decimal (by decide)) (.decimal (by decide))
      (.decimal (by decide)) (.decimal (by decide))
  have hchars : Json.WrittenChars "type".toList _ := .cons (Json.writtenChar_escape 't')
    (.cons (.unit hdigits) (Json.writtenChars_escape ['p', 'e']))
  exact .quoted hchars

theorem written_aside : Json.Written 126 aside.piece.value aside.piece.text := by
  refine Value.Fits.written (.array fun item hitem => ?_)
  obtain rfl := List.mem_singleton.mp hitem
  refine .object fun member hmember => ?_
  obtain rfl := List.mem_singleton.mp hmember
  exact .string _

theorem written_letter : Json.Written 127 (.object [aside.pair, request.pair]) letter := by
  change Json.Written _ (.object ((aside :: [request]).map (·.pair))) _
  refine .object ?_ ?_ ?_
  · simp [Member.HasBlanks, Json.Piece.HasBlanks, aside, request, Json.IsBlank]
  · exact List.forall_mem_cons.mpr
      ⟨Json.writtenString_quote "a", List.forall_mem_singleton.mpr writtenString_request⟩
  · exact List.forall_mem_cons.mpr
      ⟨written_aside, List.forall_mem_singleton.mpr (.string (Json.writtenString_quote _))⟩

theorem written_enclosure : Json.Written 127 (.object [aside.pair])
    (0x7B :: (aside.bytes ++ Member.following [])) := by
  change Json.Written _ (.object ((aside :: []).map (·.pair))) _
  refine .object ?_ ?_ ?_
  · simp [Member.HasBlanks, Json.Piece.HasBlanks, aside, Json.IsBlank]
  · exact List.forall_mem_singleton.mpr (Json.writtenString_quote "a")
  · exact List.forall_mem_singleton.mpr written_aside

theorem names_letter : ControlMessage.Names [aside.pair, request.pair] "SKIP_WAITING" :=
  ⟨[aside.pair], [], rfl, by simp [aside, Member.pair]⟩

theorem isBlank_one {b : UInt8} (hb : b = 0x20 ∨ b = 0x0A) : Json.IsBlank [b] := by
  obtain rfl | rfl := hb <;> simp [Json.IsBlank]

theorem read_letters :
    ControlMessage.parse? ([0x20] ++ (letter ++ [0x0A])).toByteArray = some .skipWaiting ∧
      ControlMessage.parse?
        ([] ++ (0x7B :: (aside.bytes ++ Member.following []) ++ [])).toByteArray = none := by
  constructor
  · exact (read_as_named written_letter (isBlank_one (.inl rfl)) (isBlank_one (.inr rfl))
      (Utf8.toList_toByteArray _)).1 "SKIP_WAITING" names_letter
  · refine ((read_as_named written_enclosure Json.isBlank_nil Json.isBlank_nil
      (Utf8.toList_toByteArray _)).2 ?_).1
    rintro type ⟨front, back, hmembers, -⟩
    have hmem : ("type", Value.string type) ∈ [aside.pair] := by simp [hmembers]
    simp [aside, Member.pair] at hmem

end Intercom

/-! ### What a message does -/

/-- What a request to skip waiting may ask for after what it exchanged: it ends an activation and
clears stores away only once it has begun one. -/
def Presses (agent : Agent) (exchanged : List Exchange) : Op → Prop
  | .lifecycle number step =>
    number = agent.number ∧ (step = .requestSkip ∨ step = .read ∨
      step = .advance .waiting .activating ∨
      (step = .advance .activating .active ∧ beginning agent ∈ exchanged))
  | .storage call => (call = .names ∨ ∃ name, call = .delete name) ∧ beginning agent ∈ exchanged
  | _ => False

/-- The answer holds the version of the agent and nothing else. -/
structure Answer.TellsVersion (agent : Agent) (answer : Answer) : Prop where
  status : answer.status = 200
  body : Json.Value.parse answer.body.toList = .ok (.object [("type", .string "VERSION"),
    ("version", .string (agent.settings.cachePrefix ++ "-" ++ agent.settings.version))])

/-- What a step of a request to skip waiting may change, after what it exchanged: the flag, and the
state if the agent waits at that moment. Then an activation has begun that is its own, and it may
clear stores away and say that the agent is active. -/
structure Restrained (agent : Agent) (exchanged : List Exchange) (exchange : Exchange)
    (before after : System) : Prop where
  others : ∀ other, other ≠ agent.number → after.cells other = before.cells other
  begins : exchange = beginning agent → (before.cells agent.number).state = .waiting
  state : (after.cells agent.number).state = (before.cells agent.number).state ∨
    (exchange = beginning agent ∧ (after.cells agent.number).state = .activating) ∨
    (beginning agent ∈ exchanged ∧ (before.cells agent.number).state = .activating ∧
      (after.cells agent.number).state = .active)
  stores : after.tables = before.tables ∨ beginning agent ∈ exchanged

section

variable {agent : Agent} {incoming : Incoming} {exchanged : List Exchange}

theorem presses_of_leads {op : Op} {next : op.Answer → Work Unit}
    (leads : Work.Leads agent.skipWaiting exchanged (.ask op next)) :
    Presses agent exchanged op := by
  obtain ⟨rfl, hleft⟩ | ⟨_, rest, rfl, flagged⟩ := Work.leads_ask_iff.mp leads
  · cases hleft
    exact ⟨rfl, .inl rfl⟩
  obtain ⟨rfl, hleft⟩ | ⟨state, rest, rfl, looked⟩ := Work.leads_ask_iff.mp flagged
  · cases hleft
    exact ⟨rfl, .inr (.inl rfl)⟩
  change Work.Leads (if state = .waiting then agent.activate >>= fun _ => .done () else .done ())
    rest (.ask op next) at looked
  split at looked
  · obtain ⟨rfl, hleft⟩ | ⟨moved, rest, rfl, begun⟩ := Work.leads_ask_iff.mp looked
    · cases hleft
      exact ⟨rfl, .inr (.inr (.inl rfl))⟩
    cases moved with
    | false => cases (Work.leads_done_iff.mp begun).2
    | true =>
        have hbegan : beginning agent ∈ ⟨.lifecycle agent.number .requestSkip, ()⟩ ::
            ⟨.lifecycle agent.number .read, state⟩ :: beginning agent :: rest := by simp
        have hasks : agent.activate.Asks (Presses agent _) :=
          Agent.asks_activate ⟨rfl, .inr (.inr (.inl rfl))⟩ ⟨.inl rfl, hbegan⟩
            (fun name => ⟨.inr ⟨name, rfl⟩, hbegan⟩) ⟨rfl, .inr (.inr (.inr ⟨rfl, hbegan⟩))⟩
        exact begun.asks_next ((hasks.2 true).bind fun _ => trivial)
  · cases (Work.leads_done_iff.mp looked).2

section

variable {asked : ControlMessage}

/-- Only a request to skip waiting asks for anything. -/
theorem presses_of_control {op : Op} {next : op.Answer → Work (Option VersionReply)}
    (leads : Work.Leads (agent.control asked) exchanged (.ask op next)) :
    asked = .skipWaiting ∧ Presses agent exchanged op := by
  cases asked with
  | skipWaiting =>
      obtain ⟨rest, hrest, hleft⟩ := Work.leads_bind_done leads
      cases rest with
      | done => cases hleft
      | ask pressed later =>
          obtain ⟨rfl, -⟩ := Work.ask.inj hleft
          exact ⟨rfl, presses_of_leads hrest⟩
  | getVersion => cases (Work.leads_done_iff.mp leads).2
  | unknown => cases (Work.leads_done_iff.mp leads).2

theorem reply_of_control {reply : Option VersionReply}
    (leads : Work.Leads (agent.control asked) exchanged (.done reply)) :
    reply = if asked = .getVersion then some ⟨agent.settings.versionId⟩ else none := by
  cases asked with
  | skipWaiting =>
      obtain ⟨pressed, -, hreply⟩ := Work.exists_of_leads_bind_done leads
      exact hreply
  | getVersion => exact Work.done.inj (Work.leads_done_iff.mp leads).2
  | unknown => exact Work.done.inj (Work.leads_done_iff.mp leads).2

theorem getD_unknown_eq_iff {parsed : Option ControlMessage} (hknown : asked ≠ .unknown) :
    parsed.getD .unknown = asked ↔ parsed = some asked := by
  cases parsed with
  | none => simpa using hknown.symm
  | some message => simp

end

theorem tellsVersion_acknowledge :
    (acknowledge (some ⟨agent.settings.versionId⟩)).TellsVersion agent where
  status := rfl
  body := by
    have hfits : (VersionReply.json ⟨agent.settings.versionId⟩).Fits (126 + 1) := by
      refine .object fun member hmem => ?_
      simp only [List.mem_cons, List.not_mem_nil, or_false] at hmem
      obtain rfl | rfl := hmem <;> exact .string _
    have hbody : (acknowledge (some ⟨agent.settings.versionId⟩)).body =
        (VersionReply.json ⟨agent.settings.versionId⟩).compact.toUTF8 := by
      simp only [acknowledge, Answer.json, Answer.new]
    rw [hbody]
    exact hfits.parse_compact

/-- The answer holds the version if that was asked for, and nothing otherwise. -/
theorem answer_of_control {asked : ControlMessage} {reply : Option VersionReply}
    (leads : Work.Leads (agent.control asked) exchanged (.done reply)) :
    ((acknowledge reply).TellsVersion agent ↔ asked = .getVersion) ∧
      (asked ≠ .getVersion →
        (acknowledge reply).status = 202 ∧ (acknowledge reply).body = .empty) := by
  obtain rfl := reply_of_control leads
  by_cases hasked : asked = .getVersion
  · rw [if_pos hasked]
    exact ⟨iff_of_true tellsVersion_acknowledge hasked, fun hother => absurd hasked hother⟩
  · rw [if_neg hasked]
    exact ⟨iff_of_false (fun tells => absurd tells.status (by decide)) hasked,
      fun _ => ⟨rfl, rfl⟩⟩

/-! ### A message among other work -/

section

variable {calls : Activity → Prop} {s t u : System} {events : List Event}

theorem restrained_of_answers {op : Op} {answer : op.Answer}
    (presses : Presses agent exchanged op) (answers : t.Answers op answer u) :
    Restrained agent exchanged ⟨op, answer⟩ t u := by
  cases op with
  | storage call =>
      have hcells : u.cells = t.cells := by
        obtain ⟨_, -, rfl⟩ | ⟨now, -, -, rfl⟩ := answers <;> rfl
      exact ⟨fun _ _ => congrFun hcells _, nofun, .inl (by rw [hcells]), .inr presses.2⟩
  | lifecycle number step =>
      obtain ⟨rfl, hstep⟩ := presses
      obtain ⟨rfl, rfl⟩ := answers
      refine ⟨fun other hother => Function.update_of_ne hother _ _, ?_, ?_, .inl rfl⟩
      · intro hbegins
        obtain rfl : step = .advance .waiting .activating := by
          simpa [beginning] using congrArg Exchange.op hbegins
        by_contra hstate
        rw [Lifecycle.Step.run_advance_of_ne hstate] at hbegins
        simp [beginning] at hbegins
      · simp only [Function.update_self]
        obtain rfl | rfl | rfl | ⟨rfl, hbegan⟩ := hstep
        · exact .inl rfl
        · exact .inl rfl
        · by_cases hstate : (t.cells agent.number).state = .waiting
          · rw [Lifecycle.Step.run_advance_of_eq hstate]
            exact .inr (.inl ⟨rfl, rfl⟩)
          · rw [Lifecycle.Step.run_advance_of_ne hstate]
            exact .inl rfl
        · by_cases hstate : (t.cells agent.number).state = .activating
          · rw [Lifecycle.Step.run_advance_of_eq hstate]
            exact .inr (.inr ⟨hbegan, hstate, rfl⟩)
          · rw [Lifecycle.Step.run_advance_of_ne hstate]
            exact .inl rfl
  | _ => exact presses.elim

theorem restrained_of_step {asked : ControlMessage} {left : Work (Option VersionReply)}
    {f : Option VersionReply → Reply} {purpose : Purpose} {number : Nat} {exchange : Exchange}
    (leads : Work.Leads (agent.control asked) exchanged left)
    (here : t.tasks[number]? = some ⟨purpose, left >>= fun reply => .done (f reply)⟩)
    (step : Step calls t (.act number exchange) u) :
    asked = .skipWaiting ∧ Restrained agent exchanged exchange t u := by
  cases step with
  | @act mid _ purpose op next answer found answers =>
      have hleft := (Task.mk.inj (Option.some.inj (found.symm.trans here))).2
      cases left with
      | done told => cases hleft
      | ask pressed later =>
          obtain ⟨rfl, -⟩ := Work.ask.inj hleft
          obtain ⟨hasked, presses⟩ := presses_of_control leads
          have restrained := restrained_of_answers presses answers
          exact ⟨hasked, restrained.others, restrained.begins, restrained.state,
            restrained.stores⟩

theorem serve_message (message : incoming.IsMessage) :
    (Activity.serve agent incoming).work =
      agent.control ((ControlMessage.parse? incoming.body).getD .unknown) >>= fun reply =>
        .done (.answer (acknowledge reply)) := by
  change answer agent incoming >>= _ = _
  rw [answer_message message]
  exact Work.bind_assoc _ _ _

/-- What is left of a message is left of what it asks for. -/
theorem message_under_way (message : incoming.IsMessage)
    (run : Run calls (s.begin (.serve agent incoming)) events t) :
    ∃ left, Work.Leads (agent.control ((ControlMessage.parse? incoming.body).getD .unknown))
        (history s.tasks.length events) left ∧
      t.tasks[s.tasks.length]? = some ⟨.call (.serve agent incoming),
        left >>= fun reply => .done (.answer (acknowledge reply))⟩ := by
  have start : (s.begin (.serve agent incoming)).tasks[s.tasks.length]? =
      some (Purpose.call (.serve agent incoming)).task := by simp [System.begin]
  obtain ⟨work, here, leads⟩ := run.leads_of_task start
  change Work.Leads (Activity.serve agent incoming).work _ _ at leads
  rw [serve_message message] at leads
  obtain ⟨left, hleft, rfl⟩ := Work.leads_bind_done leads
  exact ⟨left, hleft, here⟩

/-- **Messages.** In every state of the agent and in every run, whatever else is under way: a
message is answered with the version if and only if it asks for it, and then before anything else
happens; any other is answered with nothing. Only a request to skip waiting ever does something, and
it changes the state only if the agent waits at that moment. -/
theorem message_answered (message : incoming.IsMessage)
    (run : Run calls (s.begin (.serve agent incoming)) events t) :
    ∃ work, t.tasks[s.tasks.length]? = some ⟨.call (.serve agent incoming), work⟩ ∧
      ((∃ reply, work = .done reply) ∨ GoesOn calls t s.tasks.length) ∧
      (∀ reply, work = .done reply → ∃ answer, reply = .answer answer ∧
        (answer.TellsVersion agent ↔
          ControlMessage.parse? incoming.body = some .getVersion) ∧
        (ControlMessage.parse? incoming.body ≠ some .getVersion →
          answer.status = 202 ∧ answer.body = .empty)) ∧
      (ControlMessage.parse? incoming.body = some .getVersion →
        history s.tasks.length events = [] ∧ ∃ reply, work = .done reply) ∧
      ∀ exchange u, Step calls t (.act s.tasks.length exchange) u →
        ControlMessage.parse? incoming.body = some .skipWaiting ∧
          Restrained agent (history s.tasks.length events) exchange t u := by
  have hversion : (ControlMessage.parse? incoming.body).getD .unknown = .getVersion ↔
      ControlMessage.parse? incoming.body = some .getVersion := getD_unknown_eq_iff (by decide)
  obtain ⟨left, leads, here⟩ := message_under_way message run
  refine ⟨_, here, ?_, ?_, ?_, ?_⟩
  · cases left with
    | done reply => exact .inl ⟨_, rfl⟩
    | ask op next =>
        obtain ⟨-, presses⟩ := presses_of_control leads
        refine .inr (System.goesOn here fun channel ticket hawait => ?_)
        subst hawait
        exact presses.elim
  · intro reply hdone
    cases left with
    | ask op next => cases hdone
    | done told =>
        obtain rfl : .answer (acknowledge told) = reply := Work.done.inj hdone
        obtain ⟨htells, hother⟩ := answer_of_control leads
        exact ⟨_, rfl, htells.trans hversion, fun hasked => hother (mt hversion.mp hasked)⟩
  · intro hparsed
    rw [hversion.mpr hparsed] at leads
    obtain ⟨hquiet, rfl⟩ := Work.leads_done_iff.mp leads
    exact ⟨hquiet, _, rfl⟩
  · intro exchange u step
    obtain ⟨hasked, restrained⟩ := restrained_of_step leads here step
    exact ⟨(getD_unknown_eq_iff (by decide)).mp hasked, restrained⟩

end

end

namespace Intercom

open Kiosk (patient frontPage)
open Lifecycle (activation)

def press : Incoming where
  method := "POST"
  target := ⟨"/__stowaway/message", none⟩
  headers := []
  body := ([0x20] ++ (letter ++ [0x0A])).toByteArray

theorem isMessage_press : press.IsMessage :=
  ⟨rfl, rfl, by decide⟩

theorem parse_press : ControlMessage.parse? press.body = some .skipWaiting := by
  have hbody : press.body.toList = [0x20] ++ (letter ++ [0x0A]) := Utf8.toList_toByteArray _
  rw [ControlMessage.parse?, hbody,
    written_letter.parse (isBlank_one (.inl rfl)) (isBlank_one (.inr rfl))]
  exact ControlMessage.ofJson?_of_names names_letter

/-- The agent waits, and a request is under way. -/
def busy : System where
  tables := .empty
  cells := fun _ => ⟨.waiting, false, true, 1⟩
  posted := []
  nextTicket := 0
  tasks := [(Purpose.call (.fetch patient frontPage)).task]

/-- The disk does not let the agent see its stores. -/
def pressed : List Exchange :=
  [⟨.lifecycle 0 .requestSkip, ()⟩, ⟨.lifecycle 0 .read, .waiting⟩] ++
    activation patient (.error .unavailable) []

theorem leads_pressed : Work.Leads (patient.control .skipWaiting) pressed (.done none) :=
  .step (.step (.step (.step (.step (.refl _)))))

theorem press_runs : ∃ t, Run (fun _ => True) (busy.begin (.serve patient press))
    (pressed.map (.act 1)) t ∧ (t.cells 0).state = .active ∧
      t.tasks[1]? = some ⟨.call (.serve patient press), .done (.answer (.empty 202))⟩ := by
  have hleads : Work.Leads (Activity.serve patient press).work pressed
      (.done (.answer (.empty 202))) := by
    rw [serve_message isMessage_press, parse_press]
    exact leads_pressed.bind_of_done _
  exact ⟨_, Run.of_leads hleads rfl ⟨_, .moved rfl, _, .moved rfl, _, .moved rfl, _, .failed _,
    _, .moved rfl, rfl⟩, rfl, rfl⟩

theorem press_answered : ∃ t answer, Run (fun _ => True) (busy.begin (.serve patient press))
    (pressed.map (.act 1)) t ∧ (t.cells 0).state = .active ∧
      t.tasks[1]? = some ⟨.call (.serve patient press), .done (.answer answer)⟩ ∧
      answer.status = 202 ∧ answer.body = .empty := by
  obtain ⟨t, run, hactive, hdone⟩ := press_runs
  obtain ⟨work, here, -, hreply, -⟩ := message_answered isMessage_press run
  obtain ⟨-, rfl⟩ := Task.mk.inj (Option.some.inj (hdone.symm.trans here))
  obtain ⟨answer, hanswer, -, hempty⟩ := hreply _ rfl
  obtain rfl := Reply.answer.inj hanswer
  exact ⟨t, _, run, hactive, hdone, hempty (by rw [parse_press]; decide)⟩

end Intercom

end Server

end OfflineAgent
