import TagEventor.Jpcsc.Transmit

/-!
# Cards with T=0

With T=0 a command carries data either to the card or from it. An application that has been given
data lets its response be fetched by a second command, and one that is asked for a response of
another length names the length and executes nothing. `Transmit` hides this: through it the
application answers each command as if there were no T=0 (`transmits_answer`), if no status of its
own begins with 61 or 6C and no response has more than 256 bytes (`Application.Short`). The commands
have their fifth byte and are no `GET RESPONSE` (`Message`).
-/

namespace TagEventor.Jpcsc
open Interact
variable {σ : Type}

/-- A response of an application, with the two bytes of the status. -/
structure Response where
  data : List BYTE
  sw1 : BYTE
  sw2 : BYTE

/-- An application in a card: which headers are followed by data, and what it makes of a header and
data in a state. -/
structure Application (σ : Type) where
  incoming : List BYTE → Bool
  execute : List BYTE → List BYTE → σ → Response × σ

/-- A card: its application, and a response that is to be fetched. -/
structure CardState (σ : Type) where
  app : σ
  waiting : Option Response

namespace Response

/-- The data and the status. -/
def bytes (r : Response) : List BYTE := r.data ++ [r.sw1, r.sw2]

/-- The length of the data, in a byte. -/
def size (r : Response) : BYTE := UInt8.ofNat r.data.length

end Response

/-- What a card with T=0 answers. -/
def Application.respond (app : Application σ) (tpdu : List BYTE) (s : CardState σ) :
    List BYTE × CardState σ :=
  let header := tpdu.take 4
  let p3 := tpdu.getD 4 0
  if header = GET_RESPONSE then
    match s.waiting with
    | none => ([0x69, 0x85], s)
    | some r => if p3 = r.size then (r.bytes, ⟨s.app, none⟩) else ([0x6c, r.size], s)
  else
    let r := app.execute header (tpdu.drop 5) s.app
    if app.incoming header = true ∧ r.1.data ≠ [] then ([0x61, r.1.size], ⟨r.2, some r.1⟩)
    else if app.incoming header = false ∧ r.1.data ≠ [] ∧ p3 ≠ r.1.size then ([0x6c, r.1.size], s)
    else (r.1.bytes, ⟨r.2, none⟩)

/-- The responses fit into one byte of length, and no status means anything in T=0 itself. -/
structure Application.Short (app : Application σ) : Prop where
  length : ∀ header data s, (app.execute header data s).1.data.length ≤ 256
  status : ∀ header data s,
    (app.execute header data s).1.sw1 ≠ 0x61 ∧ (app.execute header data s).1.sw1 ≠ 0x6c

/-- A failure of `SCardTransmit`: before the card has got the command, or after it. -/
structure Failure where
  rv : LONG
  arrived : Bool
  failed : rv ≠ SCARD_S_SUCCESS

/-- A card in a reader, and how often `SCardTransmit` was called. -/
structure Link (σ : Type) where
  card : CardState σ
  calls : Nat

/-- How pcscd answers, with a reader that may fail each time; then nothing is received. -/
def pcscd (app : Application σ) (fails : Nat → Option Failure) :
    CardRequest → Link σ → (LONG × List BYTE) × Link σ
  | .transmit send capacity, w =>
    let r := app.respond send w.card
    match fails w.calls with
    | some f => ((f.rv, []), ⟨if f.arrived then r.2 else w.card, w.calls + 1⟩)
    | none =>
      if r.1.length ≤ capacity then ((SCARD_S_SUCCESS, r.1), ⟨r.2, w.calls + 1⟩)
      else ((SCARD_E_INSUFFICIENT_BUFFER, []), ⟨r.2, w.calls + 1⟩)
  | .status, w => ((SCARD_S_SUCCESS, []), w)

/-- A command for an application; there are data only for a header that is followed by data, and a
last byte that asks for a response is needed for any other. -/
structure Message (app : Application σ) where
  header : List BYTE
  data : List BYTE
  le : Option BYTE
  four : header.length = 4
  other : header ≠ GET_RESPONSE
  short : data.length < 256
  shape : app.incoming header = true ∨ data = [] ∧ le ≠ none

/-- The bytes of a command. -/
def Message.bytes {app : Application σ} (m : Message app) : List BYTE :=
  m.header ++ (if app.incoming m.header then UInt8.ofNat m.data.length :: m.data else []) ++
    m.le.toList

/-- A call of `Transmit`: a range of an array that holds a command, and what is on the stack. -/
structure TransmitCall (app : Application σ) where
  stack : {cout : List BYTE // cout.length = RECEIVE_BUFFER_SIZE}
  cin : List BYTE
  off : Nat
  message : Message app
  holds : (cin.drop off).take message.bytes.length = message.bytes

/-- Some calls, one after the other; what they throw is caught. -/
def Card.transmitAll {app : Application σ} (c : Card) :
    List (TransmitCall app) → CardProg (List (Except Failed (List BYTE)))
  | [] => return []
  | call :: calls => do
    let r ← c.Transmit call.stack call.cin call.off call.message.bytes.length
    let rs ← c.transmitAll calls
    return r :: rs

/-- How a call may end: with the response, or with the failure of its last `SCardTransmit`. There
are two of them at most, and the command is executed at most once. -/
inductive Answers (app : Application σ) (fails : Nat → Option Failure) (m : Message app)
    (w : Link σ) : Except Failed (List BYTE) → Link σ → Prop where
  | answered {w' : Link σ} :
    w'.card.app = (app.execute m.header m.data w.card.app).2 →
    w'.calls ≤ w.calls + 2 →
    Answers app fails m w (.ok (app.execute m.header m.data w.card.app).1.bytes) w'
  | failed {f n} {w' : Link σ} :
    fails n = some f →
    w.calls ≤ n ∧ n + 1 = w'.calls ∧ w'.calls ≤ w.calls + 2 →
    w'.card.app = w.card.app ∨ w'.card.app = (app.execute m.header m.data w.card.app).2 →
    Answers app fails m w (.error (.PCSCException "SCardTransmit()".toList f.rv)) w'

/-- How some calls end, one after the other. -/
inductive AnswersAll (app : Application σ) (fails : Nat → Option Failure) :
    Link σ → List (TransmitCall app) → List (Except Failed (List BYTE)) → Link σ → Prop where
  | nil {w} :
    AnswersAll app fails w [] [] w
  | cons {w w' w'' call calls r rs} :
    Answers app fails call.message w r w' →
    AnswersAll app fails w' calls rs w'' →
    AnswersAll app fails w (call :: calls) (r :: rs) w''

section
variable {app : Application σ} {header data tpdu : List BYTE} {p3 : BYTE} {s : CardState σ}
  {m : Message app} {fails : Nat → Option Failure} {w : Link σ} {capacity : Nat}

/-- What a card may answer to a command. -/
inductive Responds (app : Application σ) (header data : List BYTE) (p3 : BYTE) (s : CardState σ) :
    List BYTE × CardState σ → Prop where
  | done :
    Responds app header data p3 s ((app.execute header data s.app).1.bytes,
      ⟨(app.execute header data s.app).2, none⟩)
  | more :
    app.incoming header = true →
    Responds app header data p3 s ([0x61, (app.execute header data s.app).1.size],
      ⟨(app.execute header data s.app).2, some (app.execute header data s.app).1⟩)
  | otherLength :
    app.incoming header = false →
    Responds app header data p3 s ([0x6c, (app.execute header data s.app).1.size], s)

/-- How the card answers a command. -/
lemma respond_eq (four : header.length = 4) (other : header ≠ GET_RESPONSE) :
    app.respond (header ++ p3 :: data) s =
      let r := app.execute header data s.app
      if app.incoming header = true ∧ r.1.data ≠ [] then ([0x61, r.1.size], ⟨r.2, some r.1⟩)
      else if app.incoming header = false ∧ r.1.data ≠ [] ∧ p3 ≠ r.1.size then
        ([0x6c, r.1.size], s)
      else (r.1.bytes, ⟨r.2, none⟩) := by
  have take : (header ++ p3 :: data).take 4 = header := List.take_left' four
  have drop : (header ++ p3 :: data).drop 5 = data := by
    rw [List.drop_append, four, List.drop_of_length_le (by omega)]
    rfl
  have fifth : (header ++ p3 :: data).getD 4 0 = p3 := by
    rw [List.getD_eq_getElem?_getD, List.getElem?_append_right (by omega), four]
    rfl
  unfold Application.respond
  dsimp only
  rw [take, drop, fifth, if_neg other]

/-- How the card answers a command, by cases. -/
lemma respond_command (four : header.length = 4) (other : header ≠ GET_RESPONSE) :
    Responds app header data p3 s (app.respond (header ++ p3 :: data) s) := by
  rw [respond_eq four other]
  dsimp only
  split
  next more => exact .more more.1
  split
  next wrong => exact .otherLength wrong.1
  next => exact .done

/-- With the length that the card has named, a command is executed. -/
lemma respond_named (four : header.length = 4) (other : header ≠ GET_RESPONSE)
    (outgoing : app.incoming header = false) :
    app.respond (header ++ [(app.execute header [] s.app).1.size]) s =
      ((app.execute header [] s.app).1.bytes, ⟨(app.execute header [] s.app).2, none⟩) := by
  rw [respond_eq four other]
  dsimp only
  rw [if_neg (fun h => absurd (outgoing.symm.trans h.1) Bool.false_ne_true),
    if_neg (fun h => h.2.2 rfl)]

/-- A response that is fetched by its length is delivered as a whole. -/
lemma respond_getResponse {app' : σ} {r : Response} :
    app.respond (GET_RESPONSE ++ [r.size]) ⟨app', some r⟩ = (r.bytes, ⟨app', none⟩) :=
  if_pos rfl

/-- No more is received than there is room for. -/
lemma within_pcscd : Within (pcscd app fails) := by
  intro send capacity w
  unfold pcscd
  dsimp only
  split
  · exact Nat.zero_le _
  · split
    next fits => exact fits
    next => exact Nat.zero_le _

/-- How a call of `SCardTransmit` may end. -/
inductive Sends (app : Application σ) (fails : Nat → Option Failure) (tpdu : List BYTE)
    (w : Link σ) : (LONG × List BYTE) × Link σ → Prop where
  | replied :
    Sends app fails tpdu w ((SCARD_S_SUCCESS, (app.respond tpdu w.card).1),
      ⟨(app.respond tpdu w.card).2, w.calls + 1⟩)
  | failed {f card} :
    fails w.calls = some f →
    card = w.card ∨ card = (app.respond tpdu w.card).2 →
    Sends app fails tpdu w ((f.rv, []), ⟨card, w.calls + 1⟩)

/-- How a call of `SCardTransmit` with enough room ends. -/
lemma pcscd_sends (room : (app.respond tpdu w.card).1.length ≤ capacity) :
    Sends app fails tpdu w (pcscd app fails (.transmit tpdu capacity) w) := by
  unfold pcscd
  dsimp only
  split
  next f failed =>
    refine .failed failed ?_
    cases f.arrived with
    | true => exact .inr rfl
    | false => exact .inl rfl
  next =>
    rw [if_pos room]
    exact .replied

end

section
variable {app : Application σ} {m : Message app} {call : TransmitCall app}

/-- The fifth byte: how many bytes of data follow, or how many are asked for. -/
def Message.p3 (m : Message app) : BYTE :=
  if app.incoming m.header = true then UInt8.ofNat m.data.length else m.le.getD 0

/-- A command has five bytes, its data and perhaps a last one. -/
lemma Message.bytes_eq : ∃ rest, m.bytes = m.header ++ m.p3 :: (m.data ++ rest) ∧
    (app.incoming m.header = false → m.data = [] ∧ rest = []) := by
  unfold Message.bytes Message.p3
  cases incoming : app.incoming m.header with
  | true =>
    refine ⟨m.le.toList, ?_, nofun⟩
    rw [if_pos rfl, if_pos rfl, List.append_assoc]
    rfl
  | false =>
    obtain ⟨noData, some⟩ := m.shape.resolve_left (by rw [incoming]; exact Bool.false_ne_true)
    obtain ⟨le, some⟩ := Option.ne_none_iff_exists'.1 some
    refine ⟨[], ?_, fun _ => ⟨noData, rfl⟩⟩
    rw [if_neg Bool.false_ne_true, if_neg Bool.false_ne_true, noData, some, List.append_nil]
    rfl

/-- The range lies in the array and has five bytes at least. -/
lemma TransmitCall.range : 5 ≤ call.message.bytes.length ∧
    call.off + call.message.bytes.length ≤ call.cin.length := by
  obtain ⟨rest, e, _⟩ := call.message.bytes_eq
  have four := call.message.four
  have long : 5 ≤ call.message.bytes.length := by
    rw [e, List.length_append, List.length_cons]
    omega
  have length := congrArg List.length call.holds
  rw [List.length_take, List.length_drop] at length
  omega

/-- The length byte of the range. -/
lemma TransmitCall.lengthByte : call.cin.getD (call.off + 4) 0 = call.message.p3 := by
  obtain ⟨rest, e, _⟩ := call.message.bytes_eq
  have four := call.message.four
  have long := call.range.1
  have fifth : call.message.bytes[4]? = some call.message.p3 := by
    rw [e, List.getElem?_append_right (by omega), four]
    rfl
  rw [← call.holds, List.getElem?_take_of_lt (by omega), List.getElem?_drop] at fifth
  rw [List.getD_eq_getElem?_getD, fifth]
  rfl

/-- What is sent: the command without what follows the data. -/
lemma TransmitCall.sent : (call.cin.drop call.off).take
      ((Card.init .T0).cut call.cin call.off call.message.bytes.length) =
    call.message.header ++ call.message.p3 :: call.message.data := by
  have four := call.message.four
  have short := call.message.short
  obtain ⟨rest, e, outgoing⟩ := call.message.bytes_eq
  have length : call.message.bytes.length = 5 + call.message.data.length + rest.length := by
    rw [e, List.length_append, List.length_cons, List.length_append]
    omega
  have cut : (Card.init .T0).cut call.cin call.off call.message.bytes.length =
      5 + call.message.data.length := by
    unfold Card.cut
    rw [call.lengthByte]
    cases incoming : app.incoming call.message.header with
    | true =>
      have p3 : call.message.p3.toNat = call.message.data.length := by
        unfold Message.p3
        rw [if_pos incoming]
        exact UInt8.toNat_ofNat_of_lt' short
      dsimp only
      rw [p3]
      split
      next => rfl
      next whole =>
        have size : ¬ 5 + call.message.data.length < call.message.bytes.length :=
          fun less => whole ⟨rfl, less⟩
        omega
    | false =>
      obtain ⟨noData, noRest⟩ := outgoing incoming
      rw [noRest, noData] at length
      rw [noData, length]
      exact if_neg fun less => absurd less.2 (Nat.not_lt.2 (Nat.le_add_right _ _))
  rw [cut]
  have taken : (call.cin.drop call.off).take (5 + call.message.data.length) =
      call.message.bytes.take (5 + call.message.data.length) := by
    rw [← call.holds, List.take_take, Nat.min_eq_left (by omega)]
  have front : call.message.bytes =
      (call.message.header ++ call.message.p3 :: call.message.data) ++ rest := by
    rw [e, List.append_assoc]
    rfl
  rw [taken, front, List.take_left']
  rw [List.length_append, List.length_cons]
  omega

/-- The command with another length byte. -/
lemma TransmitCall.sent_named {x : BYTE} : ((call.cin.set (call.off + 4) x).drop call.off).take
      ((Card.init .T0).cut call.cin call.off call.message.bytes.length) =
    call.message.header ++ x :: call.message.data := by
  have four := call.message.four
  rw [List.drop_set, if_neg (by omega), Nat.add_sub_cancel_left, List.take_set, call.sent,
    List.set_append_right _ _ (by omega), four]
  rfl

end

section
variable {app : Application σ} {header data : List BYTE} {p3 : BYTE} {s : CardState σ}
  {reply : List BYTE × CardState σ} {call : TransmitCall app} {calls : List (TransmitCall app)}
  {fails : Nat → Option Failure} {w : Link σ}

/-- Every answer of the card fits into the buffer. -/
lemma Responds.fits (h : Responds app header data p3 s reply) (short : app.Short) :
    reply.1.length ≤ RECEIVE_BUFFER_SIZE := by
  have length := short.length header data s.app
  unfold RECEIVE_BUFFER_SIZE
  cases h with
  | done =>
    show (_ ++ [_, _] : List BYTE).length ≤ _
    rw [List.length_append, List.length_cons, List.length_singleton]
    omega
  | more =>
    show 2 ≤ 260
    decide
  | otherLength =>
    show 2 ≤ 260
    decide

/-- The command is executed once or not at all. -/
lemma Responds.once (h : Responds app header data p3 s reply) :
    reply.2.app = s.app ∨ reply.2.app = (app.execute header data s.app).2 := by
  cases h with
  | done => exact .inr rfl
  | more => exact .inr rfl
  | otherLength => exact .inl rfl

/-- A final response is not followed by a command. -/
lemma followUp_final {cin joff jlen} (short : app.Short) : (Card.init .T0).followUp cin joff jlen
    (app.execute header data s.app).1.bytes = none := by
  obtain ⟨no61, no6c⟩ := short.status header data s.app
  generalize (app.execute header data s.app).1 = r at no61 no6c
  unfold Card.followUp
  split
  next two =>
    have noData : r.data = [] := by
      have length := two.2
      unfold Response.bytes at length
      rw [List.length_append] at length
      exact List.eq_nil_of_length_eq_zero (Nat.add_right_cancel length)
    have first : r.bytes.getD 0 0 = r.sw1 := by
      unfold Response.bytes
      rw [noData]
      rfl
    rw [first, if_neg (fun h => no6c h.1), if_neg (fun h => no61 h.1)]
  next => rfl

/-- After a failure no second command follows. -/
lemma followUp_nothing {cin joff jlen} : (Card.init .T0).followUp cin joff jlen [] = none :=
  if_neg (by decide)

/-- A response that waits is fetched. -/
lemma followUp_more {cin joff jlen} {n : BYTE} :
    (Card.init .T0).followUp cin joff jlen [0x61, n] = some (GET_RESPONSE ++ [n]) := rfl

/-- The command is sent again with the length that the card names. -/
lemma followUp_named {cin joff jlen} {n : BYTE} :
    (Card.init .T0).followUp cin joff jlen [0x6c, n] =
      some (((cin.set (joff + 4) n).drop joff).take jlen) := rfl

/-- A failure is thrown. -/
lemma checked_failed {f : Failure} {received : List BYTE} :
    checked (f.rv, received) = .error (.PCSCException "SCardTransmit()".toList f.rv) :=
  if_pos f.failed

/-- The second command ends the call. -/
lemma second_answers {m : Message app} {w' : Link σ} {tpdu : List BYTE} (short : app.Short)
    (next : w'.calls = w.calls + 1)
    (final : app.respond tpdu w'.card = ((app.execute m.header m.data w.card.app).1.bytes,
      ⟨(app.execute m.header m.data w.card.app).2, none⟩))
    (once : w'.card.app = w.card.app ∨
      w'.card.app = (app.execute m.header m.data w.card.app).2) :
    Answers app fails m w (checked (pcscd app fails (.transmit tpdu RECEIVE_BUFFER_SIZE) w').1)
      (pcscd app fails (.transmit tpdu RECEIVE_BUFFER_SIZE) w').2 := by
  have fits : (app.respond tpdu w'.card).1.length ≤ RECEIVE_BUFFER_SIZE := by
    have responds : Responds app m.header m.data 0 w.card _ := .done
    rw [final]
    exact responds.fits short
  have sends := @pcscd_sends _ app _ fails w' _ fits
  generalize pcscd app fails _ w' = a at sends ⊢
  cases sends with
  | @failed f card failed arrived =>
    rw [checked_failed]
    refine .failed failed ⟨by omega, rfl, ?_⟩ ?_
    · show w'.calls + 1 ≤ _
      omega
    · rcases arrived with rfl | rfl
      · exact once
      · rw [final]
        exact .inr rfl
  | replied =>
    rw [final]
    refine .answered rfl ?_
    show w'.calls + 1 ≤ _
    omega

/-- One call ends as the application answers. -/
lemma transmit_answers (short : app.Short) :
    let r := ((Card.init .T0).Transmit call.stack call.cin call.off
      call.message.bytes.length).run (pcscd app fails) w
    Answers app fails call.message w r.1 r.2 := by
  intro r
  unfold r Card.Transmit
  obtain ⟨long, range⟩ := call.range
  rw [if_neg (by omega), Int.toNat_natCast, Int.toNat_natCast,
    nativeTransmit_run within_pcscd (by omega), exchange_run]
  dsimp only
  rw [call.sent]
  have four := call.message.four
  have other := call.message.other
  have responds : Responds app call.message.header call.message.data call.message.p3 w.card _ :=
    respond_command four other
  have sends := @pcscd_sends _ app _ fails w _ (responds.fits short)
  generalize pcscd app fails _ w = a at sends ⊢
  cases sends with
  | @failed f card failed arrived =>
    rw [followUp_nothing]
    show Answers app fails call.message w (checked (f.rv, [])) ⟨card, w.calls + 1⟩
    rw [checked_failed]
    refine .failed failed ⟨Nat.le_refl _, rfl, Nat.le_succ _⟩ ?_
    rcases arrived with rfl | rfl
    · exact .inl rfl
    · exact responds.once
  | replied =>
    generalize app.respond (_ ++ _ :: _) w.card = reply at responds ⊢
    cases responds with
    | done =>
      rw [followUp_final short]
      exact .answered rfl (Nat.le_succ _)
    | more =>
      rw [followUp_more]
      exact second_answers short rfl respond_getResponse (.inr rfl)
    | otherLength outgoing =>
      obtain ⟨_, _, noData⟩ := call.message.bytes_eq
      rw [followUp_named, call.sent_named, (noData outgoing).1]
      refine second_answers short rfl ?_ (.inl rfl)
      rw [(noData outgoing).1]
      exact respond_named four other outgoing

/-- In every run, whatever fails on the way, each call returns the response of the application in
its present state, or throws the failure of one of its calls of `SCardTransmit`; it makes two calls
at most, and the command is executed at most once. -/
theorem transmits_answer (short : app.Short) :
    let r := ((Card.init .T0).transmitAll calls).run (pcscd app fails) w
    AnswersAll app fails w calls r.1 r.2 := by
  induction calls generalizing w with
  | nil => exact .nil
  | cons call calls ih =>
    intro r
    have first := @transmit_answers _ app call fails w short
    have others := @ih (((Card.init .T0).Transmit call.stack call.cin call.off
      call.message.bytes.length).run (pcscd app fails) w).2
    have e : r = _ := Prog.run_bind
    rw [e, Prog.run_bind]
    exact .cons first others

/-- An application that counts the commands, and returns the number for one of them. -/
def counter : Application Nat where
  incoming header := header.getD 1 0 = 0xa4
  execute header _ n :=
    (⟨if header.getD 1 0 = 0xb0 then [0, UInt8.ofNat n] else [], 0x90, 0⟩, n + 1)

/-- The responses of this application meet the conditions. -/
lemma counter_short : counter.Short where
  length := by
    intro header data n
    show (if header.getD 1 0 = 0xb0 then _ else _ : List BYTE).length ≤ 256
    split
    · exact Nat.le_of_ble_eq_true rfl
    · exact Nat.zero_le _
  status := by
    intro header data n
    show (0x90 : BYTE) ≠ 0x61 ∧ (0x90 : BYTE) ≠ 0x6c
    decide

/-- A file is selected, and read with another length than it has. -/
def selectAndRead : List (TransmitCall counter) :=
  let stack : {cout : List BYTE // cout.length = RECEIVE_BUFFER_SIZE} :=
    ⟨List.replicate 260 0, List.length_replicate⟩
  [⟨stack, [0x00, 0xa4, 0x02, 0x00, 0x02, 0x3f, 0x00, 0x00], 0,
      ⟨[0x00, 0xa4, 0x02, 0x00], [0x3f, 0x00], some 0x00, rfl, by decide, by decide, by decide⟩,
      rfl⟩,
    ⟨stack, [0xff, 0x00, 0xb0, 0x00, 0x00, 0x10], 1,
      ⟨[0x00, 0xb0, 0x00, 0x00], [], some 0x10, rfl, by decide, by decide, by decide⟩, rfl⟩]

/-- Both commands are answered. -/
theorem transmits_answer_counter :
    let fails : Nat → Option Failure := fun _ => none
    let r := ((Card.init .T0).transmitAll selectAndRead).run (pcscd counter fails) ⟨⟨7, none⟩, 0⟩
    AnswersAll counter fails ⟨⟨7, none⟩, 0⟩ selectAndRead r.1 r.2 :=
  transmits_answer counter_short

end

end TagEventor.Jpcsc
