import Relayd.Runtime.UdpBuffers

/-!
# Sending a batch

The datagrams of one session go out by `sendmmsg`, which may take only some of them.
The loop around it passes the rest again until all are sent or a call fails, and an
error says how many had been sent.  A call that would block is repeated by the readiness
loop of the socket and is not seen here; the replies below are those of the calls that
came back.
-/

namespace Relayd
namespace Runtime
namespace UdpSend

open Udp

inductive IoError where
  | os (code : Int)
  | writeZero
deriving DecidableEq, Repr

structure UdpBatchSendError where
  sent : Nat
  error : IoError
deriving DecidableEq, Repr

/-- A slot of the batch and what its buffer holds for it. -/
structure Message where
  index : Nat
  payload : List UInt8
deriving DecidableEq, Repr

def messageAt (batch : UdpReceiveBatch) (index : Nat) : Message where
  index := index
  payload := ((batch.buffers[index]?.map Vector.toList).getD []).take
    (batch.lengths[index]?.getD 0)

/-- The headers of a call: always a full array, whose tail points to the first slot. -/
def headers (batch : UdpReceiveBatch) (remaining : List Nat) : List Message :=
  (List.range udpMaxReceiveBatchSize).map (fun position =>
    messageAt batch (remaining[position]?.getD 0))

/-- What `sendmmsg` returns for `vlen` messages: it never takes more. -/
inductive Reply (vlen : Nat) where
  | failed (code : Int)
  | returned (count : Fin (vlen + 1))
deriving DecidableEq, Repr

def Reply.taken {vlen : Nat} : Reply vlen -> Nat
  | .failed _ => 0
  | .returned count => count.val

def Reply.result {vlen : Nat} : Reply vlen -> Except IoError Nat
  | .failed code => .error (.os code)
  | .returned count => if count.val = 0 then .error .writeZero else .ok count.val

/-- The reply to each call in turn, whatever the number of messages passed to it. -/
abbrev Kernel := Nat -> (vlen : Nat) -> Reply vlen

structure Call where
  sent : Nat
  vlen : Nat
  reply : Reply vlen

/-- The state of the loop, and what has left the socket. -/
structure Run where
  sent : Nat
  calls : List Call
  transmitted : List Message

def Run.start : Run := ⟨0, [], []⟩

/-- One `sendmmsg` over the messages that are left. -/
def sendmmsg (kernel : Kernel) (batch : UdpReceiveBatch) (indexes : List Nat) (run : Run) :
    Except IoError Nat × Run :=
  let remaining := indexes.drop run.sent
  let reply := kernel run.calls.length remaining.length
  let passed := (headers batch remaining).take remaining.length
  (reply.result,
    { run with
      calls := run.calls ++ [⟨run.sent, remaining.length, reply⟩]
      transmitted := run.transmitted ++ passed.take reply.taken })

/-- The loop for a bounded number of rounds, `none` when it is still running. -/
def sendLoop (kernel : Kernel) (batch : UdpReceiveBatch) (indexes : List Nat) :
    Nat -> Run -> Option (Except UdpBatchSendError Unit × Run)
  | 0, _ => none
  | rounds + 1, run =>
      if run.sent < indexes.length then
        let called := sendmmsg kernel batch indexes run
        match called.1 with
        | .ok count =>
            sendLoop kernel batch indexes rounds { called.2 with sent := run.sent + count }
        | .error error => some (.error ⟨run.sent, error⟩, called.2)
      else some (.ok (), run)

def sendBatch (kernel : Kernel) (batch : UdpReceiveBatch) (indexes : List Nat)
    (rounds : Nat) : Option (Except UdpBatchSendError Unit × Run) :=
  sendLoop kernel batch indexes rounds Run.start

/-- `send` is how the message at a position of the list fares. -/
def sendIndividuallyFrom (send : Nat -> Except IoError Unit) (batch : UdpReceiveBatch) :
    Nat -> List Nat -> List Message -> Except UdpBatchSendError Unit × List Message
  | _, [], transmitted => (.ok (), transmitted)
  | sent, index :: rest, transmitted =>
      match send sent with
      | .error error => (.error ⟨sent, error⟩, transmitted)
      | .ok () =>
          sendIndividuallyFrom send batch (sent + 1) rest
            (transmitted ++ [messageAt batch index])

def sendIndividually (send : Nat -> Except IoError Unit) (batch : UdpReceiveBatch)
    (indexes : List Nat) : Except UdpBatchSendError Unit × List Message :=
  sendIndividuallyFrom send batch 0 indexes []

/-!
# One call
-/

theorem take_headers (batch : UdpReceiveBatch) {remaining : List Nat}
    (h : remaining.length <= udpMaxReceiveBatchSize) :
    (headers batch remaining).take remaining.length = remaining.map (messageAt batch) := by
  apply List.ext_getElem?
  intro position
  unfold headers
  rw [List.getElem?_take, List.getElem?_map, List.getElem?_map]
  split
  · next hlt =>
    rw [List.getElem?_range (Nat.lt_of_lt_of_le hlt h), Option.map_some,
      List.getElem?_eq_getElem hlt]
    rfl
  · next hge =>
    rw [List.getElem?_eq_none (Nat.le_of_not_lt hge)]
    rfl

theorem Reply.taken_le {vlen : Nat} (reply : Reply vlen) : reply.taken <= vlen := by
  cases reply with
  | failed code => exact Nat.zero_le _
  | returned count => exact Nat.lt_succ_iff.mp count.isLt

/-- A call that succeeds takes a message; one that fails takes none. -/
theorem Reply.result_cases {vlen : Nat} (reply : Reply vlen) :
    (reply.result = .ok reply.taken ∧ 0 < reply.taken) ∨
      (exists error, reply.result = .error error ∧ reply.taken = 0) := by
  cases reply with
  | failed code => exact Or.inr ⟨.os code, rfl, rfl⟩
  | returned count =>
      by_cases hzero : count.val = 0
      · exact Or.inr ⟨.writeZero, if_pos hzero, hzero⟩
      · exact Or.inl ⟨if_neg hzero, Nat.pos_of_ne_zero hzero⟩

/-!
# One by one
-/

theorem sendIndividuallyFrom_ok {send : Nat -> Except IoError Unit} (batch : UdpReceiveBatch)
    {indexes : List Nat} (sent : Nat) (transmitted : List Message)
    (h : forall offset, offset < indexes.length -> send (sent + offset) = .ok ()) :
    sendIndividuallyFrom send batch sent indexes transmitted =
      (.ok (), transmitted ++ indexes.map (messageAt batch)) := by
  induction indexes generalizing sent transmitted with
  | nil => rw [sendIndividuallyFrom, List.map_nil, List.append_nil]
  | cons index rest ih =>
      have hfirst := h 0 (Nat.zero_lt_succ _)
      rw [Nat.add_zero] at hfirst
      rw [sendIndividuallyFrom, hfirst]
      simp only
      rw [ih (sent + 1) _ ?_, List.append_assoc]
      · rfl
      · intro offset hoffset
        rw [Nat.add_assoc, Nat.add_comm 1 offset]
        exact h (offset + 1) (Nat.succ_lt_succ hoffset)

theorem sendIndividuallyFrom_error {send : Nat -> Except IoError Unit}
    (batch : UdpReceiveBatch) {indexes : List Nat} {count : Nat} {error : IoError} (sent : Nat)
    (transmitted : List Message) (hcount : count < indexes.length)
    (h : forall offset, offset < count -> send (sent + offset) = .ok ())
    (herror : send (sent + count) = .error error) :
    sendIndividuallyFrom send batch sent indexes transmitted =
      (.error ⟨sent + count, error⟩,
        transmitted ++ (indexes.take count).map (messageAt batch)) := by
  induction indexes generalizing sent count transmitted with
  | nil => cases hcount
  | cons index rest ih =>
      rw [sendIndividuallyFrom]
      cases count with
      | zero =>
          rw [Nat.add_zero] at herror
          rw [herror, List.take_zero, List.map_nil, List.append_nil]
          rfl
      | succ count =>
          have hfirst := h 0 (Nat.zero_lt_succ _)
          rw [Nat.add_zero] at hfirst
          rw [hfirst]
          simp only
          have hshift : forall offset, sent + 1 + offset = sent + (offset + 1) := by
            intro offset
            rw [Nat.add_assoc, Nat.add_comm 1 offset]
          rw [ih (sent + 1) _ (Nat.lt_of_succ_lt_succ hcount) ?_ ?_, hshift,
            List.append_assoc]
          · rfl
          · intro offset hoffset
            rw [hshift]
            exact h (offset + 1) (Nat.succ_lt_succ hoffset)
          · rw [hshift]
            exact herror

/-!
# The loop
-/

/-- How a message fares by itself, as far as a call tells. -/
def Agrees (send : Nat -> Except IoError Unit) (call : Call) : Prop :=
  match call.reply.result with
  | .ok count => forall offset, offset < count -> send (call.sent + offset) = .ok ()
  | .error error => send call.sent = .error error

/-- Every call so far took messages, and together they took the first ones. -/
structure Sound (batch : UdpReceiveBatch) (indexes : List Nat) (run : Run) : Prop where
  sent_le : run.sent <= indexes.length
  transmitted : run.transmitted = (indexes.take run.sent).map (messageAt batch)
  succeeded : forall call, call ∈ run.calls ->
    call.reply.result = .ok call.reply.taken ∧ call.sent + call.reply.taken <= run.sent
  covered : forall position, position < run.sent -> exists call, call ∈ run.calls ∧
    call.sent <= position ∧ position < call.sent + call.reply.taken

theorem sound_start (batch : UdpReceiveBatch) (indexes : List Nat) :
    Sound batch indexes Run.start where
  sent_le := Nat.zero_le _
  transmitted := rfl
  succeeded := by
    intro call hcall
    cases hcall
  covered := by
    intro position hposition
    cases hposition

theorem Sound.accepted {batch : UdpReceiveBatch} {indexes : List Nat} {run : Run}
    (h : Sound batch indexes run) {send : Nat -> Except IoError Unit}
    (hagrees : forall call, call ∈ run.calls -> Agrees send call) {position : Nat}
    (hposition : position < run.sent) : send position = .ok () := by
  rcases h.covered position hposition with ⟨call, hcall, hfrom, hto⟩
  have hcalled := hagrees call hcall
  unfold Agrees at hcalled
  rw [(h.succeeded call hcall).1] at hcalled
  have hoffset := hcalled (position - call.sent) (by lia)
  rwa [Nat.add_sub_cancel' hfrom] at hoffset

section Steps

variable {batch : UdpReceiveBatch} {indexes : List Nat} {run : Run} (kernel : Kernel)
  (h : Sound batch indexes run) (hlimit : indexes.length <= udpMaxReceiveBatchSize)

include h hlimit

/-- A call puts out the next messages of the list, as many as it took. -/
theorem Sound.transmits :
    (sendmmsg kernel batch indexes run).2.transmitted =
      (indexes.take (run.sent + (kernel run.calls.length
        (indexes.drop run.sent).length).taken)).map (messageAt batch) := by
  have hremaining : (indexes.drop run.sent).length <= udpMaxReceiveBatchSize := by
    rw [List.length_drop]
    lia
  unfold sendmmsg
  simp only
  rw [take_headers batch hremaining, h.transmitted, <- List.map_take, <- List.map_append,
    List.take_add]

theorem Sound.progress {count : Nat}
    (hok : (sendmmsg kernel batch indexes run).1 = .ok count) :
    0 < count ∧ Sound batch indexes
      { (sendmmsg kernel batch indexes run).2 with sent := run.sent + count } := by
  let reply := kernel run.calls.length (indexes.drop run.sent).length
  have hresult : reply.result = .ok count := hok
  have hle := reply.taken_le
  have hlength : (indexes.drop run.sent).length = indexes.length - run.sent :=
    List.length_drop
  rcases reply.result_cases with ⟨htaken, hpos⟩ | ⟨error, herror, _⟩
  · rw [hresult] at htaken
    cases htaken
    refine ⟨hpos, ?_, h.transmits kernel hlimit, ?_, ?_⟩
    · show run.sent + reply.taken <= indexes.length
      have := h.sent_le
      lia
    · intro call hcall
      rcases List.mem_append.mp hcall with hold | hnew
      · rcases h.succeeded call hold with ⟨hcalled, hbelow⟩
        exact ⟨hcalled, Nat.le_trans hbelow (Nat.le_add_right _ _)⟩
      · cases List.mem_singleton.mp hnew
        exact ⟨hresult, Nat.le_refl _⟩
    · intro position hposition
      by_cases hbefore : position < run.sent
      · rcases h.covered position hbefore with ⟨call, hcall, hrange⟩
        exact ⟨call, List.mem_append_left _ hcall, hrange⟩
      · exact ⟨_, List.mem_append_right _ (List.mem_singleton_self _),
          Nat.le_of_not_lt hbefore, hposition⟩
  · rw [hresult] at herror
    cases herror

theorem Sound.stops {error : IoError}
    (herror : (sendmmsg kernel batch indexes run).1 = .error error) :
    (sendmmsg kernel batch indexes run).2.transmitted =
      (indexes.take run.sent).map (messageAt batch) := by
  let reply := kernel run.calls.length (indexes.drop run.sent).length
  have hresult : reply.result = .error error := herror
  rcases reply.result_cases with ⟨htaken, _⟩ | ⟨_, _, hnone⟩
  · rw [hresult] at htaken
    cases htaken
  · rw [h.transmits kernel hlimit]
    show (indexes.take (run.sent + reply.taken)).map (messageAt batch) = _
    rw [hnone, Nat.add_zero]

end Steps

/-- How the loop ends. -/
structure Settled (batch : UdpReceiveBatch) (indexes : List Nat)
    (result : Except UdpBatchSendError Unit) (run : Run) : Prop where
  ok : result = .ok () -> run.transmitted = indexes.map (messageAt batch)
  error : forall failure, result = .error failure -> failure.sent < indexes.length ∧
    run.transmitted = (indexes.take failure.sent).map (messageAt batch)
  individually : forall send, (forall call, call ∈ run.calls -> Agrees send call) ->
    sendIndividually send batch indexes = (result, run.transmitted)
  realised : exists send, forall call, call ∈ run.calls -> Agrees send call

theorem Sound.settled_ok {batch : UdpReceiveBatch} {indexes : List Nat} {run : Run}
    (h : Sound batch indexes run) (hdone : ¬ run.sent < indexes.length) :
    Settled batch indexes (.ok ()) run := by
  have hall : run.transmitted = indexes.map (messageAt batch) := by
    rw [h.transmitted, List.take_of_length_le (Nat.le_of_not_lt hdone)]
  refine ⟨fun _ => hall, ?_, ?_, ?_⟩
  · intro failure hfailure
    cases hfailure
  · intro send hagrees
    have hok : forall offset, offset < indexes.length -> send (0 + offset) = .ok () := by
      intro offset hoffset
      rw [Nat.zero_add]
      exact h.accepted hagrees (by lia)
    rw [hall]
    exact sendIndividuallyFrom_ok batch 0 [] hok
  · refine ⟨fun _ => .ok (), ?_⟩
    intro call hcall
    unfold Agrees
    rw [(h.succeeded call hcall).1]
    intro offset _
    rfl

theorem Sound.settled_error {batch : UdpReceiveBatch} {indexes : List Nat} {run : Run}
    (h : Sound batch indexes run) (hlimit : indexes.length <= udpMaxReceiveBatchSize)
    (hmore : run.sent < indexes.length) (kernel : Kernel) {error : IoError}
    (herror : (sendmmsg kernel batch indexes run).1 = .error error) :
    Settled batch indexes (.error ⟨run.sent, error⟩)
      (sendmmsg kernel batch indexes run).2 := by
  have hstops := h.stops kernel hlimit herror
  have hcalls : forall call, call ∈ (sendmmsg kernel batch indexes run).2.calls ->
      call ∈ run.calls ∨ (call.sent = run.sent ∧ call.reply.result = .error error) := by
    intro call hcall
    rcases List.mem_append.mp hcall with hold | hnew
    · exact Or.inl hold
    · cases List.mem_singleton.mp hnew
      exact Or.inr ⟨rfl, herror⟩
  refine ⟨?_, ?_, ?_, ?_⟩
  · intro hok
    cases hok
  · intro failure hfailure
    cases hfailure
    exact ⟨hmore, hstops⟩
  · intro send hagrees
    have haccepted : forall offset, offset < run.sent -> send (0 + offset) = .ok () := by
      intro offset hoffset
      rw [Nat.zero_add]
      exact h.accepted (fun call hcall => hagrees call (List.mem_append_left _ hcall)) hoffset
    have hrefused : send (0 + run.sent) = .error error := by
      have hlast := hagrees _ (List.mem_append_right _ (List.mem_singleton_self _))
      unfold Agrees at hlast
      rw [show (kernel run.calls.length (indexes.drop run.sent).length).result =
        .error error from herror] at hlast
      rw [Nat.zero_add]
      exact hlast
    have hsent := sendIndividuallyFrom_error batch 0 [] hmore haccepted hrefused
    rw [Nat.zero_add, List.nil_append] at hsent
    rw [hstops]
    exact hsent
  · refine ⟨fun position => if position < run.sent then .ok () else .error error, ?_⟩
    intro call hcall
    unfold Agrees
    rcases hcalls call hcall with hold | ⟨hsent, hlast⟩
    · rcases h.succeeded call hold with ⟨hresult, hbelow⟩
      rw [hresult]
      intro offset hoffset
      exact if_pos (by lia)
    · rw [hlast, hsent]
      exact if_neg (Nat.lt_irrefl _)

/-- The loop makes at most one call for each message that is left. -/
theorem sendLoop_settles {batch : UdpReceiveBatch} {indexes : List Nat}
    (hlimit : indexes.length <= udpMaxReceiveBatchSize) (kernel : Kernel) {rounds : Nat}
    {run : Run} (h : Sound batch indexes run)
    (hrounds : indexes.length - run.sent < rounds) :
    exists result final, sendLoop kernel batch indexes rounds run = some (result, final) ∧
      Settled batch indexes result final := by
  induction rounds generalizing run with
  | zero => cases hrounds
  | succ rounds ih =>
      rw [sendLoop]
      by_cases hmore : run.sent < indexes.length
      · rw [if_pos hmore]
        cases hcalled : (sendmmsg kernel batch indexes run).1 with
        | ok count =>
            simp only [hcalled]
            rcases h.progress kernel hlimit hcalled with ⟨hpos, hnext⟩
            apply ih hnext
            show indexes.length - (run.sent + count) < rounds
            lia
        | error error =>
            simp only [hcalled]
            exact ⟨_, _, rfl, h.settled_error hlimit hmore kernel hcalled⟩
      · rw [if_neg hmore]
        exact ⟨_, _, rfl, h.settled_ok hmore⟩

theorem sendLoop_mono {kernel : Kernel} {batch : UdpReceiveBatch} {indexes : List Nat}
    {rounds : Nat} {run : Run} {outcome : Except UdpBatchSendError Unit × Run}
    (h : sendLoop kernel batch indexes rounds run = some outcome) (more : Nat) :
    sendLoop kernel batch indexes (rounds + more) run = some outcome := by
  induction rounds generalizing run with
  | zero => cases h
  | succ rounds ih =>
      rw [Nat.succ_add]
      rw [sendLoop] at h ⊢
      split at h
      · next hmore =>
        rw [if_pos hmore]
        cases hcalled : (sendmmsg kernel batch indexes run).1 with
        | ok count =>
            simp only [hcalled] at h ⊢
            exact ih h
        | error error =>
            simp only [hcalled] at h ⊢
            exact h
      · next hdone =>
        rw [if_neg hdone]
        exact h

/-- Every call was for the messages that the calls before it had left, and its reply is
the one the kernel gave for them. -/
structure Recorded (kernel : Kernel) (indexes : List Nat) (run : Run) : Prop where
  sent : run.sent = (run.calls.map (fun call => call.reply.taken)).sum
  call : forall n call, run.calls[n]? = some call ->
    call.sent = ((run.calls.take n).map (fun call => call.reply.taken)).sum ∧
      call.vlen = indexes.length - call.sent ∧ call.reply = kernel n call.vlen

theorem recorded_start (kernel : Kernel) (indexes : List Nat) :
    Recorded kernel indexes Run.start where
  sent := rfl
  call := by
    intro n call hcall
    cases hcall

/-- A call is added to the record with what it took. -/
theorem Recorded.sendmmsg {kernel : Kernel} {indexes : List Nat} {run : Run}
    (h : Recorded kernel indexes run) (batch : UdpReceiveBatch) {count : Nat}
    (htaken : (kernel run.calls.length (indexes.drop run.sent).length).taken = count) :
    Recorded kernel indexes
      { (sendmmsg kernel batch indexes run).2 with sent := run.sent + count } := by
  constructor
  · show run.sent + count = ((run.calls ++ [_]).map _).sum
    rw [List.map_append, List.sum_append, ← h.sent]
    simp [htaken]
  · intro n call hcall
    change (run.calls ++ [_])[n]? = some call at hcall
    show call.sent = (((run.calls ++ [_]).take n).map _).sum ∧ _
    by_cases hn : n < run.calls.length
    · rw [List.getElem?_append_left hn] at hcall
      rw [List.take_append_of_le_length hn.le]
      exact h.call n call hcall
    · have hlast : n = run.calls.length := by
        have hbound := (List.getElem?_eq_some_iff.mp hcall).1
        rw [List.length_append, List.length_singleton] at hbound
        lia
      rw [hlast, List.getElem?_concat_length] at hcall
      cases hcall
      rw [hlast, List.take_left]
      exact ⟨h.sent, List.length_drop, rfl⟩

theorem sendLoop_recorded {kernel : Kernel} {batch : UdpReceiveBatch} {indexes : List Nat}
    {rounds : Nat} {run final : Run} {result : Except UdpBatchSendError Unit}
    (hrun : sendLoop kernel batch indexes rounds run = some (result, final))
    (h : Recorded kernel indexes run) : Recorded kernel indexes final := by
  induction rounds generalizing run with
  | zero => cases hrun
  | succ rounds ih =>
      rw [sendLoop] at hrun
      let reply := kernel run.calls.length (indexes.drop run.sent).length
      split at hrun
      · cases hcalled : (sendmmsg kernel batch indexes run).1 with
        | ok count =>
            simp only [hcalled] at hrun
            have hresult : reply.result = .ok count := hcalled
            rcases reply.result_cases with ⟨htaken, _⟩ | ⟨error, herror, _⟩
            · rw [hresult] at htaken
              cases htaken
              exact ih hrun (h.sendmmsg batch rfl)
            · rw [hresult] at herror
              cases herror
        | error error =>
            simp only [hcalled] at hrun
            cases hrun
            have hresult : reply.result = .error error := hcalled
            rcases reply.result_cases with ⟨htaken, _⟩ | ⟨_, _, hnone⟩
            · rw [hresult] at htaken
              cases htaken
            · exact h.sendmmsg batch hnone
      · cases hrun
        exact h

theorem partial_sends_exact (kernel : Kernel) (batch : UdpReceiveBatch) (indexes : List Nat)
    (hlimit : indexes.length <= udpMaxReceiveBatchSize) :
    exists result run,
      (forall rounds, indexes.length < rounds ->
        sendBatch kernel batch indexes rounds = some (result, run)) ∧
      (result = .ok () -> run.transmitted = indexes.map (messageAt batch)) ∧
      (forall failure, result = .error failure -> failure.sent < indexes.length ∧
        run.transmitted = (indexes.take failure.sent).map (messageAt batch)) ∧
      (exists send, forall call, call ∈ run.calls -> Agrees send call) ∧
      (forall send, (forall call, call ∈ run.calls -> Agrees send call) ->
        sendIndividually send batch indexes = (result, run.transmitted)) ∧
      Recorded kernel indexes run := by
  have hstart := sound_start batch indexes
  rcases sendLoop_settles hlimit kernel hstart (Nat.lt_succ_self _) with
    ⟨result, run, hrun, hsettled⟩
  refine ⟨result, run, ?_, hsettled.ok, hsettled.error, hsettled.realised,
    hsettled.individually, sendLoop_recorded hrun (recorded_start kernel indexes)⟩
  intro rounds hrounds
  have hmono := sendLoop_mono hrun (rounds - (indexes.length + 1))
  have henough : (indexes.length - Run.start.sent).succ + (rounds - (indexes.length + 1)) =
      rounds := by
    show (indexes.length - 0).succ + (rounds - (indexes.length + 1)) = rounds
    lia
  rw [henough] at hmono
  exact hmono

/-- Five messages: the first call takes two, the second one, the third fails. -/
def fullSocket : Kernel := fun call vlen =>
  if call < 2 then .returned ⟨min (2 - call) vlen, Nat.lt_succ_of_le (Nat.min_le_right _ _)⟩
  else .failed 105

theorem partial_sends_exact_full :
    [4, 7, 1, 0, 2].length <= udpMaxReceiveBatchSize ∧
    exists result run,
      sendBatch fullSocket UdpReceiveBatch.new [4, 7, 1, 0, 2] 6 = some (result, run) ∧
      result = .error ⟨3, .os 105⟩ ∧
      run.transmitted = [4, 7, 1].map (messageAt UdpReceiveBatch.new) := by
  have hlimit : [4, 7, 1, 0, 2].length <= udpMaxReceiveBatchSize := by decide
  rcases partial_sends_exact fullSocket UdpReceiveBatch.new [4, 7, 1, 0, 2] hlimit with
    ⟨result, run, hrun, _, herror, _⟩
  have hsent := hrun 6 (Nat.lt_succ_self 5)
  have hresult : result = .error ⟨3, .os 105⟩ := by
    have hfirst : (sendBatch fullSocket UdpReceiveBatch.new [4, 7, 1, 0, 2] 6).map Prod.fst =
        some (.error ⟨3, .os 105⟩) := by rfl
    rw [hsent] at hfirst
    exact Option.some.inj hfirst
  exact ⟨hlimit, result, run, hsent, hresult, (herror _ hresult).2⟩

/-!
# The loop within a pass

A pass of the receive loop sends through an abstract reply for each call.  It is this
loop over the kernel that gives those replies.
-/

/-- The kernel behind the replies of a pass from a tick on. -/
def kernelOf (around : Around) (tick : Nat) : Kernel := fun call vlen =>
  match around.send (tick + call) with
  | .failed => .failed 0
  | .sent extra =>
      .returned ⟨min (extra + 1) vlen, Nat.lt_succ_of_le (Nat.min_le_right _ _)⟩

def sentBefore : Except UdpBatchSendError Unit -> Option Nat
  | .ok () => none
  | .error failure => some failure.sent

/-- The pass stands where the run stands. -/
structure InStep (tick : Nat) (run : Run) (before : List Nat) (p : Pass) : Prop where
  tick : p.tick = tick + run.calls.length
  deliveries : p.deliveries.map Delivery.index =
    before ++ run.transmitted.map Message.index

/-- One round of the pass, in terms of the kernel behind it. -/
theorem sendBatch_round (around : Around) (datagrams : List Datagram) (session : UdpSession)
    (batch : UdpReceiveBatch) {indexes : List Nat} {tick : Nat} {run : Run} {p : Pass}
    (htick : p.tick = tick + run.calls.length) (hmore : run.sent < indexes.length) :
    let called := sendmmsg (kernelOf around tick) batch indexes run
    (exists error, called.1 = .error error ∧
      Udp.sendBatch around datagrams session run.sent (indexes.drop run.sent) p =
        (some run.sent, p.interfere around)) ∨
    (exists count, called.1 = .ok count ∧
      Udp.sendBatch around datagrams session run.sent (indexes.drop run.sent) p =
        Udp.sendBatch around datagrams session (run.sent + count)
          (indexes.drop (run.sent + count))
          (deliver datagrams session ((indexes.drop run.sent).take count)
            (p.interfere around))) := by
  intro called
  have hresult : called.1 = (kernelOf around tick run.calls.length
      (indexes.drop run.sent).length).result := rfl
  have hpos : 0 < (indexes.drop run.sent).length := by
    rw [List.length_drop]
    lia
  unfold kernelOf at hresult
  rw [<- htick] at hresult
  rcases List.exists_cons_of_length_pos hpos with ⟨index, rest, hdrop⟩
  cases hsend : around.send p.tick with
  | failed =>
      rw [hsend] at hresult
      refine Or.inl ⟨_, hresult, ?_⟩
      rw [hdrop, Udp.sendBatch, hsend]
  | sent extra =>
      rw [hsend] at hresult
      have hcount : min (extra + 1) (indexes.drop run.sent).length ≠ 0 := by lia
      refine Or.inr ⟨min (extra + 1) (indexes.drop run.sent).length,
        hresult.trans (if_neg hcount), ?_⟩
      have hrest : indexes.drop (run.sent + min (extra + 1) (indexes.drop run.sent).length) =
          rest.drop extra := by
        rw [<- List.drop_drop, <- List.drop_eq_drop_min, hdrop, List.drop_succ_cons]
      rw [hrest, hdrop, Udp.sendBatch, hsend]

theorem sendBatch_inStep (around : Around) (datagrams : List Datagram) (session : UdpSession)
    {batch : UdpReceiveBatch} {indexes : List Nat} {tick : Nat} {before : List Nat}
    (hlimit : indexes.length <= udpMaxReceiveBatchSize) {rounds : Nat} {run : Run} {p : Pass}
    (h : Sound batch indexes run) (hstep : InStep tick run before p)
    (hrounds : indexes.length - run.sent < rounds) :
    exists result final,
      sendLoop (kernelOf around tick) batch indexes rounds run = some (result, final) ∧
      (Udp.sendBatch around datagrams session run.sent (indexes.drop run.sent) p).1 =
        sentBefore result ∧
      InStep tick final before
        (Udp.sendBatch around datagrams session run.sent (indexes.drop run.sent) p).2 := by
  induction rounds generalizing run p with
  | zero => cases hrounds
  | succ rounds ih =>
      rw [sendLoop]
      by_cases hmore : run.sent < indexes.length
      · rw [if_pos hmore]
        rcases sendBatch_round around datagrams session batch hstep.tick hmore with
          ⟨error, hcalled, hround⟩ | ⟨count, hcalled, hround⟩
        · simp only [hcalled]
          rw [hround]
          refine ⟨_, _, rfl, rfl, ?_, ?_⟩
          · show p.tick + 1 = tick + (run.calls ++ [_]).length
            rw [hstep.tick, List.length_append]
            rfl
          · rw [h.stops _ hlimit hcalled, <- h.transmitted]
            exact hstep.deliveries
        · simp only [hcalled]
          rw [hround]
          rcases h.progress _ hlimit hcalled with ⟨hpos, hnext⟩
          apply ih hnext
          · constructor
            · show p.tick + 1 = tick + (run.calls ++ [_]).length
              rw [hstep.tick, List.length_append]
              rfl
            · rw [hnext.transmitted]
              show (p.deliveries ++ _).map Delivery.index = _
              rw [List.map_append, hstep.deliveries, h.transmitted]
              show _ = before ++ ((indexes.take (run.sent + count)).map _).map _
              rw [List.take_add, List.map_append, List.map_append, List.append_assoc,
                List.map_map, List.map_map, List.map_map]
              rfl
          · show indexes.length - (run.sent + count) < rounds
            lia
      · rw [if_neg hmore, List.drop_of_length_le (Nat.le_of_not_lt hmore), Udp.sendBatch]
        exact ⟨_, _, rfl, rfl, hstep⟩

/-- What a pass reports and delivers by `sendBatch` is what the loop over the kernel
behind its replies reports and transmits. -/
theorem pass_sendBatch (around : Around) (datagrams : List Datagram) (session : UdpSession)
    (batch : UdpReceiveBatch) {indexes : List Nat} (p : Pass)
    (hlimit : indexes.length <= udpMaxReceiveBatchSize) :
    exists result run,
      sendBatch (kernelOf around p.tick) batch indexes (indexes.length + 1) =
        some (result, run) ∧
      (Udp.sendBatch around datagrams session 0 indexes p).1 = sentBefore result ∧
      (Udp.sendBatch around datagrams session 0 indexes p).2.deliveries.map Delivery.index =
        p.deliveries.map Delivery.index ++ run.transmitted.map Message.index := by
  have hstart : InStep p.tick Run.start (p.deliveries.map Delivery.index) p :=
    ⟨rfl, (List.append_nil _).symm⟩
  rcases sendBatch_inStep around datagrams session hlimit (sound_start batch indexes) hstart
    (Nat.lt_succ_self _) with ⟨result, run, hrun, hreport, hfinal⟩
  exact ⟨result, run, hrun, hreport, hfinal.deliveries⟩

end UdpSend
end Runtime
end Relayd
