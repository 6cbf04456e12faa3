import PolicyReplay.Controller.Scripted
import PolicyReplay.Policy.Setup
import PolicyReplay.Proofs.Except
import PolicyReplay.Proofs.Session.Course
import PolicyReplay.Proofs.Text.Utf8

/-!
# Sessions keep in step with their peers

A session sends its payloads in order, each only when all before it are answered, and falls silent
at the first thing that goes wrong. The farewell is told from the other payloads by its first
octet, so a peer that waits for it cannot be misled by a command.

## Key results

- `compiled_ne_farewell`, `setup_ne_farewell`: no command is the farewell
- `Course.orderly`: what holds whenever a session sends or receives
- `session_conforms`: a session conforms to the protocol, whatever the peer does
-/

namespace PolicyReplay.Run

open Transcript

variable {σ : Type}

/-! ## Commands are told from the farewell -/

/-- A compiled command begins with the name of its verb. -/
theorem text_of_compile {verb : Verb} {key : String} {value : Option String} {filter : Filter}
    {command : Command} (h : Command.compile verb key value filter = .ok command) :
    ∃ rest, command.text = verb.commandName ++ rest := by
  unfold Command.compile at h
  -- in either form the name of the verb comes first, and the rest is behind it
  split at h
  · exact nomatch h
  · split at h
    · split at h
      · exact nomatch h
      · split at h
        · exact nomatch h
        · rename_i text _
          obtain rfl := Except.ok.inj h
          exact ⟨" " ++ key ++ " " ++ text ++ filter.text, by simp only [String.append_assoc]⟩
    · obtain rfl := Except.ok.inj h
      exact ⟨" " ++ key ++ filter.text, by simp only [String.append_assoc]⟩

/-- No verb begins as the farewell does. -/
theorem commandName_encode (verb : Verb) :
    ∃ first rest, Text.encode verb.commandName.toList = first :: rest ∧
      Frame.farewell.head? ≠ some first := by
  -- the farewell begins with an octet that begins no name
  cases verb <;> exact ⟨_, _, rfl, by decide⟩

/-- The command of a query line is not the farewell. -/
theorem compiled_ne_farewell {line : String} {command : Command}
    (h : Command.ofLine line = .ok command) : command.bytes ≠ Frame.farewell := by
  simp only [Command.ofLine, bind, Except.bind] at h
  split at h
  · exact nomatch h
  · rename_i query _
    obtain ⟨rest, htext⟩ := text_of_compile h
    obtain ⟨first, others, hname, hfirst⟩ := commandName_encode query.verb
    -- the first octet of the command is that of the name of its verb
    intro heq
    rw [← heq, Command.bytes, htext, String.toList_append, Text.encode_append, hname] at hfirst
    exact hfirst rfl

/-- The setup command of a policy document is not the farewell. -/
theorem setup_ne_farewell {document : Json} {command : Command}
    (h : Setup.compile document = .ok command) : command.bytes ≠ Frame.farewell := by
  unfold Setup.compile at h
  split at h
  · rename_i members _
    obtain ⟨text, _, rfl⟩ : ∃ text, Setup.documentArguments members = .ok text ∧
        (⟨"user_policy" ++ String.ofList text⟩ : Command) = command := by
      cases harguments : Setup.documentArguments members with
      | error skip => rw [harguments] at h; exact nomatch h
      | ok text => rw [harguments] at h; exact ⟨text, rfl, Except.ok.inj h⟩
    intro heq
    -- the setup command begins with a letter, and the farewell with another one
    have hhead : Frame.farewell.head? = some 0x75 := by
      rw [← heq, Command.bytes, String.toList_append, Text.encode_append]
      rfl
    exact absurd hhead (by decide)
  · exact nomatch h

/-! ## What holds at each step -/

/-- An answer with which a session goes on: a frame, and the acknowledgement if it is the answer to
the setup command. -/
def Welcome (setup : Option Command) (before : List Step) :
    Except Wire.Error (Option Bytes) → Prop
  | .ok (some frame) => setup.isSome → frames before = [] → frame = Frame.acknowledgement
  | _ => False

/-- What holds of a step of a session, given the steps before and after it. -/
def Orderly (setup : Option Command) (commands : List Command) (before : List Step) :
    Step → List Step → Prop
  | .sent payload answer, after =>
    (plan setup commands)[(frames before).length]? = some payload ∧
      (delivered before).length = (frames before).length ∧
      (setup.isSome → ∀ frame ∈ (frames before).head?, frame = Frame.acknowledgement) ∧
      ((∃ e, answer = .error e) ∨ (frames before).length = (requests setup commands).length →
        Quiet after)
  | .received answer, after => ¬ Welcome setup before answer → Quiet after
  | _, _ => True

variable {setup : Option Command} {commands : List Command}

/-- The payload that follows on rounds with the payloads before it. -/
theorem getElem?_plan {rounds : List Round} {payload : Bytes} {left : List Bytes}
    (hpayloads : rounds.map (·.payload) ++ payload :: left = requests setup commands) :
    (plan setup commands)[rounds.length]? = some payload ∧
      rounds.length < (requests setup commands).length := by
  rw [plan, ← hpayloads]
  simp

/-- The farewell follows on rounds with all other payloads. -/
theorem getElem?_farewell {rounds : List Round}
    (hpayloads : rounds.map (·.payload) = requests setup commands) :
    (plan setup commands)[rounds.length]? = some Frame.farewell := by
  rw [plan, ← hpayloads]
  simp

/-- What is accepted of rounds is accepted of the first of them. -/
theorem Accepted.of_append {done rest : List Round} (h : Accepted setup (done ++ rest)) :
    Accepted setup done := by
  cases done with
  | nil => exact fun round hround => nomatch hround
  | cons first done => exact h

/-- Sending after rounds is orderly if it is the turn of the payload. -/
theorem orderly_sent (rounds : List Round) {payload : Bytes} {answer : Except Wire.Error Unit}
    {after : List Step} (haccepted : Accepted setup rounds)
    (hturn : (plan setup commands)[rounds.length]? = some payload)
    (hquiet : (∃ e, answer = .error e) ∨ rounds.length = (requests setup commands).length →
      Quiet after) :
    Orderly setup commands (.connected .opened :: roundSteps rounds) (.sent payload answer)
      after := by
  -- the frames so far are the answers of the rounds, one for each
  have hframes : (frames (.connected .opened :: roundSteps rounds)).length = rounds.length := by
    simp
  refine ⟨by rwa [hframes], by simp, fun hsome frame hframe => ?_, by rwa [hframes]⟩
  cases rounds with
  | nil => exact nomatch hframe
  | cons first rounds =>
    obtain rfl : first.answer = frame := by simpa using hframe
    exact haccepted first rfl hsome

/-- A round after others is orderly if its answer is accepted. -/
theorem orderly_round {done : List Round} {round : Round} {left : List Bytes}
    (after : List Step) (haccepted : Accepted setup (done ++ [round]))
    (hpayloads : done.map (·.payload) ++ round.payload :: left = requests setup commands) :
    Throughout (fun before step between => Orderly setup commands
      (.connected .opened :: (roundSteps done ++ before)) step (between ++ after))
      round.steps := by
  obtain ⟨hturn, hlt⟩ := getElem?_plan hpayloads
  simp only [Round.steps, throughout_cons, throughout_nil, and_true, List.append_nil]
  refine ⟨orderly_sent done haccepted.of_append hturn ?_, trivial, ?_, trivial⟩
  -- the payload went out, and others are still to be sent, so nothing has to be quiet
  · rintro (⟨e, he⟩ | hlast)
    · exact nomatch he
    · omega
  · -- the answer is welcome: only the first one is looked at, and that one is accepted
    intro hwelcome
    refine absurd (fun hsome hnone => ?_) hwelcome
    cases done with
    | nil => exact haccepted round rfl hsome
    | cons first done => simp at hnone

/-- A session is orderly if it is so after its rounds. -/
theorem orderly_of_rounds {rounds : List Round} {left : List Bytes} {last : List Step}
    (haccepted : Accepted setup rounds)
    (hpayloads : rounds.map (·.payload) ++ left = requests setup commands)
    (hlast : Throughout (fun before =>
      Orderly setup commands (.connected .opened :: (roundSteps rounds ++ before))) last) :
    Throughout (Orderly setup commands) (.connected .opened :: (roundSteps rounds ++ last)) := by
  rw [throughout_cons, throughout_append]
  refine ⟨trivial, throughout_rounds fun done round rest hsplit => ?_, hlast⟩
  -- a round among the others is one with those before it and the requests behind it
  rw [hsplit, ← List.singleton_append, ← List.append_assoc] at haccepted
  have hrequests : done.map (·.payload) ++ round.payload :: (rest.map (·.payload) ++ left) =
      requests setup commands := by
    rw [← hpayloads, hsplit, List.map_append, List.map_cons, List.append_assoc, List.cons_append]
  simpa only [List.append_assoc] using
    orderly_round (roundSteps rest ++ last) haccepted.of_append hrequests

/-- Ending the connection sends and receives nothing. -/
theorem quiet_closed (closing : Except Wire.Error Unit) : Quiet [.closed closing] := by
  simp [Quiet]

/-- A round trip that breaks is orderly if it is the turn of its payload, and then the session falls
silent. -/
theorem orderly_broken {rounds : List Round} {payload : Bytes} {left : List Bytes}
    {last : List Step} {e : Error} {closing : Except Wire.Error Unit}
    (haccepted : Accepted setup rounds)
    (hpayloads : rounds.map (·.payload) ++ payload :: left = requests setup commands)
    (hlast : Broken payload last e) :
    Throughout (fun before =>
      Orderly setup commands (.connected .opened :: (roundSteps rounds ++ before)))
      (last ++ [.closed closing]) := by
  obtain ⟨hturn, hlt⟩ := getElem?_plan hpayloads
  have hsent : ∀ answer after, ((∃ e, answer = .error e) → Quiet after) →
      Orderly setup commands (.connected .opened :: (roundSteps rounds ++ []))
        (.sent payload answer) after := by
    intro answer after hquiet
    rw [List.append_nil]
    exact orderly_sent rounds haccepted hturn fun h => h.elim hquiet fun hlast => absurd hlast (by omega)
  -- after a fault on the connection all that is left is to end it
  cases hlast with
  | unsent e =>
    simp only [List.cons_append, List.nil_append, throughout_cons, throughout_nil, and_true]
    exact ⟨hsent _ _ fun _ => quiet_closed closing, trivial⟩
  | unanswered e =>
    simp only [List.cons_append, List.nil_append, throughout_cons, throughout_nil, and_true]
    exact ⟨hsent _ _ (by simp), trivial, fun _ => quiet_closed closing, trivial⟩
  | hungUp =>
    simp only [List.cons_append, List.nil_append, throughout_cons, throughout_nil, and_true]
    exact ⟨hsent _ _ (by simp), trivial, fun _ => quiet_closed closing, trivial⟩

/-- Every step of a course is orderly. -/
theorem Course.orderly {steps : List Step} {fate : Fate (Except Error Latency)}
    (h : Course setup commands steps fate) : Throughout (Orderly setup commands) steps := by
  -- what is sent and received in a course is that of its rounds, and of what comes behind them
  cases h with
  | refused e => simp [throughout_cons, Orderly]
  | aborted message => simp [throughout_cons, Orderly]
  | broken rounds payload left last e closing haccepted hpayloads hlast =>
    rw [List.cons_append, List.append_assoc]
    exact orderly_of_rounds haccepted hpayloads (orderly_broken haccepted hpayloads hlast)
  | rejected command answer closing hsetup hanswer =>
    -- the answer is not welcome, and after it the connection is only ended
    subst hsetup
    simp only [Round.steps, List.cons_append, List.nil_append, throughout_cons, throughout_nil,
      and_true]
    refine ⟨trivial, ?_, trivial, fun _ => by simp [Quiet], trivial, trivial, trivial⟩
    exact orderly_sent [] (by simp [Accepted]) rfl (by simp [requests])
  | overflowed rounds left haccepted hpayloads =>
    rw [← List.append_nil (roundSteps rounds)]
    exact orderly_of_rounds haccepted hpayloads throughout_nil
  | stranded rounds e haccepted hpayloads =>
    refine orderly_of_rounds haccepted ((List.append_nil _).trans hpayloads) ?_
    simp only [throughout_cons, throughout_nil, and_true, List.append_nil]
    exact orderly_sent rounds haccepted (getElem?_farewell hpayloads) fun _ => by simp [Quiet]
  | parted rounds latency closing haccepted hpayloads hcount =>
    refine orderly_of_rounds haccepted ((List.append_nil _).trans hpayloads) ?_
    simp only [throughout_cons, throughout_nil, and_true, List.append_nil]
    exact ⟨orderly_sent rounds haccepted (getElem?_farewell hpayloads) fun _ => by simp [Quiet], trivial,
      trivial⟩

/-! ## The protocol -/

/-- A round trip that breaks sends its payload or nothing. -/
theorem Broken.delivered_prefix {payload : Bytes} {last : List Step} {e : Error}
    (h : Broken payload last e) : delivered last <+: [payload] := by
  cases h with
  | unsent e => exact List.nil_prefix
  | unanswered e => exact List.prefix_refl _
  | hungUp => exact List.prefix_refl _

/-- What goes out in a course is the beginning of the plan. -/
theorem Course.delivered_prefix {steps : List Step} {fate : Fate (Except Error Latency)}
    (h : Course setup commands steps fate) : delivered steps <+: plan setup commands := by
  -- up to where a course goes wrong it follows the plan
  cases h with
  | refused e => exact List.nil_prefix
  | aborted message => exact List.nil_prefix
  | broken rounds payload left last e closing haccepted hpayloads hlast =>
    obtain ⟨rest, hrest⟩ := hlast.delivered_prefix
    have hsplit : payload :: left = delivered last ++ rest ++ left := by rw [hrest]; rfl
    refine ⟨rest ++ left ++ [Frame.farewell], ?_⟩
    rw [plan, ← hpayloads, hsplit]
    simp
  | rejected command answer closing hsetup hanswer =>
    subst hsetup
    exact ⟨plan none commands, rfl⟩
  | overflowed rounds left haccepted hpayloads =>
    refine ⟨left ++ [Frame.farewell], ?_⟩
    rw [plan, ← hpayloads]
    simp
  | stranded rounds e haccepted hpayloads =>
    refine ⟨[Frame.farewell], ?_⟩
    rw [plan, ← hpayloads]
    simp
  | parted rounds latency closing haccepted hpayloads hcount =>
    refine ⟨[], ?_⟩
    rw [plan, ← hpayloads]
    simp

/-- The transcript of a connection conforms to the protocol of sessions. -/
structure Conforms (setup : Option Command) (commands : List Command) (steps : List Step) :
    Prop where
  /-- What goes out is the beginning of the plan. -/
  delivered_prefix : delivered steps <+: plan setup commands
  /-- A payload is sent only when the payloads before it in the plan have gone out and each has been
  answered; and if there is a setup command, only after the acknowledgement. -/
  sent_in_turn : ∀ before payload answer after,
    steps = before ++ .sent payload answer :: after →
      (plan setup commands)[(frames before).length]? = some payload ∧
        delivered before = (plan setup commands).take (frames before).length ∧
        (setup.isSome → ∀ frame ∈ (frames before).head?, frame = Frame.acknowledgement)
  /-- After a payload that did not go out, nothing is sent or received. -/
  quiet_after_unsent : ∀ before payload e after,
    steps = before ++ .sent payload (.error e) :: after → Quiet after
  /-- After an answer that is missing or refuses the setup command, nothing is sent or received. -/
  quiet_after_unwelcome : ∀ before answer after,
    steps = before ++ .received answer :: after → ¬ Welcome setup before answer → Quiet after
  /-- The farewell is sent when all else has gone out and been answered, and is the last thing. -/
  farewell_last : ∀ before answer after,
    steps = before ++ .sent Frame.farewell answer :: after →
      delivered before = requests setup commands ∧
        (frames before).length = (requests setup commands).length ∧ Quiet after
  farewell_once : (delivered steps).count Frame.farewell ≤ 1
  /-- Nothing else that is sent is the farewell. -/
  farewell_apart : Frame.farewell ∉ requests setup commands

/-- What has gone out so far is as much of the plan as there are payloads. -/
theorem delivered_eq_take {before after : List Step}
    (h : delivered (before ++ after) <+: plan setup commands) :
    delivered before = (plan setup commands).take (delivered before).length := by
  rw [delivered_append] at h
  exact List.prefix_iff_eq_take.1 ((List.prefix_append _ _).trans h)

/-- A course with commands that are not the farewell conforms to the protocol. -/
theorem Course.conforms {steps : List Step} {fate : Fate (Except Error Latency)}
    (h : Course setup commands steps fate) (hapart : Frame.farewell ∉ requests setup commands) :
    Conforms setup commands steps where
  delivered_prefix := h.delivered_prefix
  sent_in_turn := by
    rintro before payload answer after rfl
    -- where it stands in the plan tells what is sent
    obtain ⟨hturn, hlength, hack, -⟩ := h.orderly _ _ _ rfl
    refine ⟨hturn, ?_, hack⟩
    rw [← hlength]
    exact delivered_eq_take h.delivered_prefix
  quiet_after_unsent := by
    rintro before payload e after rfl
    obtain ⟨-, -, -, hquiet⟩ := h.orderly _ _ _ rfl
    exact hquiet (.inl ⟨e, rfl⟩)
  quiet_after_unwelcome := by
    rintro before answer after rfl
    exact h.orderly _ _ _ rfl
  farewell_last := by
    rintro before answer after rfl
    obtain ⟨hturn, hlength, -, hquiet⟩ := h.orderly _ _ _ rfl
    -- the farewell stands nowhere in the plan but at its end
    have hend : (frames before).length = (requests setup commands).length := by
      rw [plan, List.getElem?_append] at hturn
      split at hturn
      · exact absurd (List.mem_of_getElem? hturn) hapart
      · have := (List.getElem?_eq_some_iff.1 hturn).1
        simp only [List.length_singleton] at this
        omega
    refine ⟨?_, hend, hquiet (.inr hend)⟩
    rw [delivered_eq_take h.delivered_prefix, hlength, hend, plan, List.take_left]
  farewell_once := by
    -- it is in the plan once, and no more goes out than is in the plan
    refine Nat.le_trans (h.delivered_prefix.sublist.count_le _) ?_
    rw [plan, List.count_append, List.count_eq_zero_of_not_mem hapart]
    exact Nat.le_refl 1
  farewell_apart := hapart

/-- Whatever the peer does, a session with compiled commands conforms to the protocol. -/
theorem session_conforms (peer : Peer σ) (s : σ) (endpoint id : String) (setup : Option Command)
    (commands : List Command) (least : Severity)
    (hsetup : ∀ command ∈ setup, ∃ document, Setup.compile document = .ok command)
    (hcommands : ∀ command ∈ commands, ∃ line, Command.ofLine line = .ok command) :
    Conforms setup commands
      (((session endpoint id setup commands).conduct peer s).run least).2.steps := by
  rw [Dialogue.run_conduct_snd]
  -- neither the setup command nor a command of a line is taken for the farewell
  refine (session_course peer endpoint id setup commands s).conforms fun hmem => ?_
  obtain ⟨command, hcommand, heq⟩ := List.mem_map.1 hmem
  rcases List.mem_append.1 hcommand with hfirst | hrest
  · obtain ⟨document, hdocument⟩ := hsetup command (Option.mem_toList.1 hfirst)
    exact setup_ne_farewell hdocument heq
  · obtain ⟨line, hline⟩ := hcommands command hrest
    exact compiled_ne_farewell hline heq

/-- A session whose peer accepts the setup command and ends the stream when it has the first of two
commands. -/
theorem session_conforms_hanging_up :
    let setup : Command := ⟨"user_policy -sessionKey u1 -objPur ads,research"⟩
    let commands : List Command := [⟨"get a"⟩, ⟨"put b v -objExp !3600"⟩]
    let peer := Scripted.peer
    let opening := Scripted.State.ofScript
      { replies := [.frame Frame.acknowledgement, .finish] }
    (∀ command ∈ some setup, ∃ document, Setup.compile document = .ok command) ∧
      (∀ command ∈ commands, ∃ line, Command.ofLine line = .ok command) ∧
      Conforms setup commands
        (((session "mock://controller" "0" setup commands).conduct peer opening).run
          .info).2.steps := by
  intro setup commands peer opening
  have hsetup : ∀ command ∈ some setup, ∃ document, Setup.compile document = .ok command := by
    intro command hcommand
    obtain rfl := Option.mem_some.1 hcommand
    exact ⟨.object [("sessionKey", .string "u1"),
      ("default_policy", .object [("objPur", .array [.string "ads", .string "research"])])],
      Except.eq_ok_of_toOption (by decide +kernel)⟩
  have hcommands : ∀ command ∈ commands, ∃ line, Command.ofLine line = .ok command := by
    intro command hcommand
    rcases List.mem_cons.1 hcommand with rfl | hcommand
    · exact ⟨"query(get(\"a\"))", Except.eq_ok_of_toOption (by decide +kernel)⟩
    · obtain rfl := List.mem_singleton.1 hcommand
      exact ⟨"query(put(\"b\",\"v\"))&!objExp(\"3600\")",
        Except.eq_ok_of_toOption (by decide +kernel)⟩
  exact ⟨hsetup, hcommands,
    session_conforms peer opening "mock://controller" "0" setup commands .info hsetup hcommands⟩

end PolicyReplay.Run
