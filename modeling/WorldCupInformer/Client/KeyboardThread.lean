import WorldCupInformer.Client.Login
import WorldCupInformer.Lib.Machine

/-!
# The keyboard thread (`KeyboardThread`)

`run` reads a line into a buffer, cuts it into words and runs the command that the first word names.
The receiving thread handles frames in between.  What the surroundings do for a step is given with
it: whether the socket is connected and can be written, and what `parseEventsFile` makes of the file
at a path.

* `extractParameters_eq`: the loop over `operator>>` gives the words of a line;
* `getline_of_long`, `getline_of_not_good`: after a line that does not fit into the buffer, every
  line is empty.
-/

namespace WorldCupInformer.Client

/-! ### Lines -/

/-- An `std::istream`: the characters that have not been read, and whether it is `good()`. -/
structure Istream where
  rest : Str
  good : Bool := true

/-- `std::istream::getline` into a buffer of this size. -/
def Istream.getline (cin : Istream) (bufsize : ℕ) : Str × Istream :=
  if cin.good then
    let buf := (cin.rest.takeWhile (· ≠ '\n')).take (bufsize - 1)
    match cin.rest.drop buf.length with
    -- the end of the input: `eofbit`
    | [] => (buf, { rest := [], good := false })
    | ch :: rest =>
      if ch = '\n' then (buf, { rest := rest })
      -- the buffer is full: `failbit`
      else (buf, { rest := ch :: rest, good := false })
  else ([], cin)

theorem Istream.getline_of_not_good {cin : Istream} (h : cin.good = false) (bufsize : ℕ) :
    cin.getline bufsize = ([], cin) := by
  simp [getline, h]

theorem takeWhile_line {line : Str} (hline : '\n' ∉ line) (rest : Str) :
    (line ++ rest).takeWhile (· ≠ '\n') = line ++ rest.takeWhile (· ≠ '\n') := by
  refine List.takeWhile_append_of_pos fun ch hch => ?_
  have hne : ch ≠ '\n' := fun heq => hline (heq ▸ hch)
  simpa using hne

/-- A line that fits is read with its line end. -/
theorem Istream.getline_of_line {line : Str} (hline : '\n' ∉ line) {bufsize : ℕ}
    (hfits : line.length < bufsize) (rest : Str) :
    getline { rest := line ++ '\n' :: rest } bufsize = (line, { rest := rest }) := by
  have hbuf : ((line ++ '\n' :: rest).takeWhile (· ≠ '\n')).take (bufsize - 1) = line := by
    rw [takeWhile_line hline, List.takeWhile_cons_of_neg (by simp), List.append_nil]
    exact List.take_of_length_le (by omega)
  have hdrop : (line ++ '\n' :: rest).drop line.length = '\n' :: rest := List.drop_left
  unfold getline
  dsimp only
  rw [if_pos rfl, hbuf, hdrop]
  rfl

/-- Of a line that does not fit only the beginning is read, and the stream fails. -/
theorem Istream.getline_of_long {line : Str} (hline : '\n' ∉ line) {bufsize : ℕ}
    (hpos : 0 < bufsize) (hlong : bufsize ≤ line.length) (rest : Str) :
    getline { rest := line ++ rest } bufsize = (line.take (bufsize - 1),
      { rest := line.drop (bufsize - 1) ++ rest, good := false }) := by
  have hbuf : ((line ++ rest).takeWhile (· ≠ '\n')).take (bufsize - 1) =
      line.take (bufsize - 1) := by
    rw [takeWhile_line hline, List.take_append_of_le_length (by omega)]
  have hlength : (line.take (bufsize - 1)).length = bufsize - 1 := by
    rw [List.length_take]
    omega
  obtain ⟨ch, line', hnext⟩ : ∃ ch line', line.drop (bufsize - 1) = ch :: line' := by
    refine List.exists_cons_of_ne_nil fun hnil => ?_
    rw [List.drop_eq_nil_iff] at hnil
    omega
  have hch : ch ≠ '\n' := by
    rintro rfl
    exact hline (List.mem_of_mem_drop (hnext ▸ List.mem_cons_self))
  have hdrop : (line ++ rest).drop (bufsize - 1) = ch :: (line' ++ rest) := by
    rw [List.drop_append_of_le_length (by omega), hnext, List.cons_append]
  unfold getline
  dsimp only
  rw [if_pos rfl, hbuf, hlength, hdrop, hnext]
  exact if_neg hch

/-! ### Words -/

/-- `operator>>` into a word: white space is skipped, and it fails when nothing is left. -/
def readWord (iss : Str) : Option (Str × Str) :=
  let iss := iss.dropWhile (isSpace ·)
  if iss = [] then none else some (iss.takeWhile (!isSpace ·), iss.dropWhile (!isSpace ·))

/-- The words that are read in this many turns, up to the first that cannot be read. -/
def readWords : ℕ → Str → List Str
  | 0, _ => []
  | turns + 1, iss =>
    match readWord iss with
    | some (word, iss) => word :: readWords turns iss
    | none => []

/-- `extractParameters`.  Every word takes a character of the line. -/
def extractParameters (line : Str) : List Str := readWords (line.length + 1) line

/-- The words of a line: what stands between its white space. -/
def words (line : Str) : List Str := (line.splitOnP (isSpace ·)).filter (· ≠ [])

@[simp] theorem words_nil : words [] = [] := rfl

theorem words_cons_of_isSpace {ch : Char} (hch : isSpace ch = true) (s : Str) :
    words (ch :: s) = words s := by
  rw [words, List.splitOnP_cons_eq_if_modifyHead, if_pos hch]
  rfl

/-- White space in front is skipped. -/
theorem words_dropWhile (s : Str) : words (s.dropWhile (isSpace ·)) = words s := by
  induction s with
  | nil => rfl
  | cons ch s ih =>
    rw [List.dropWhile_cons]
    split_ifs with hch
    · rw [ih, words_cons_of_isSpace hch]
    · rfl

/-- The first word. -/
theorem words_append {w : Str} (hne : w ≠ []) (hw : ∀ ch ∈ w, isSpace ch = false) {rest : Str}
    (hrest : ∀ ch ∈ rest.head?, isSpace ch = true) : words (w ++ rest) = w :: words rest := by
  have hword : w.splitOnP (isSpace ·) = [w] := List.splitOnP_eq_singleton hw
  cases rest with
  | nil => simp [words, hword, hne]
  | cons ch rest =>
    have hch : isSpace ch = true := hrest ch rfl
    rw [words_cons_of_isSpace hch, words, List.splitOnP_append_cons _ _ hch, hword]
    simp [words, hne]

/-- A word that can be read is the first one of the line. -/
theorem words_of_readWord {iss word rest : Str} (h : readWord iss = some (word, rest)) :
    words iss = word :: words rest ∧ rest.length < iss.length := by
  unfold readWord at h
  dsimp only at h
  split_ifs at h with hnil
  obtain ⟨rfl, rfl⟩ := Prod.mk.inj (Option.some.inj h)
  rw [← words_dropWhile iss]
  set s := iss.dropWhile (isSpace ·) with hs
  have hfirst : s.takeWhile (!isSpace ·) ≠ [] := by
    obtain ⟨ch, s', hcons⟩ := List.exists_cons_of_ne_nil hnil
    have hch : isSpace ch = false := by
      have hhead := List.head?_dropWhile_not (isSpace ·) iss
      rw [← hs, hcons] at hhead
      simpa using hhead
    simp [hcons, hch]
  have hcut : s.takeWhile (!isSpace ·) ++ s.dropWhile (!isSpace ·) = s :=
    List.takeWhile_append_dropWhile
  constructor
  · have hword : ∀ ch ∈ s.takeWhile (!isSpace ·), isSpace ch = false :=
      fun ch hch => by simpa using List.mem_takeWhile_imp hch
    have hrest : ∀ ch ∈ (s.dropWhile (!isSpace ·)).head?, isSpace ch = true := by
      intro ch hch
      have hhead := List.head?_dropWhile_not (!isSpace ·) s
      rw [Option.mem_def.1 hch] at hhead
      simpa using hhead
    have hwords := words_append hfirst hword hrest
    rwa [hcut] at hwords
  · have hlength := congrArg List.length hcut
    rw [List.length_append] at hlength
    have hpos := List.length_pos_iff.2 hfirst
    have hshorter : s.length ≤ iss.length := (List.dropWhile_sublist _).length_le
    omega

theorem words_of_readWord_none {iss : Str} (h : readWord iss = none) : words iss = [] := by
  unfold readWord at h
  dsimp only at h
  split_ifs at h with hnil
  rw [← words_dropWhile, hnil, words_nil]

theorem readWords_eq {turns : ℕ} {iss : Str} (h : iss.length < turns) :
    readWords turns iss = words iss := by
  induction turns generalizing iss with
  | zero => exact absurd h (Nat.not_lt_zero _)
  | succ turns ih =>
    rw [readWords]
    cases hread : readWord iss with
    | none => exact (words_of_readWord_none hread).symm
    | some r =>
      obtain ⟨word, rest⟩ := r
      obtain ⟨hwords, hlength⟩ := words_of_readWord hread
      have hrest : readWords turns rest = words rest := ih (by omega)
      simp only [hwords, hrest]

/-- **The loop finds the words of the line.** -/
theorem extractParameters_eq (line : Str) : extractParameters line = words line :=
  readWords_eq (Nat.lt_succ_self _)

/-! ### The loop of `run` -/

/-- What a step meets: whether the socket is connected and can then be written, and what
`parseEventsFile` returns for the file at a path, unless it throws. -/
structure Surroundings where
  connects : Bool
  writes : Bool := true
  parseEventsFile : Str → Option NamesAndEvents

/-- Where the keyboard thread is. -/
inductive KeyboardPc
  /-- at `protocol->shouldTerminate()` -/
  | loop
  /-- at `protocol->isWaitingForDisconnect()` -/
  | poll
  /-- `run` has returned -/
  | returned
  /-- an exception has ended the process -/
  | threw
  /-- an element outside a vector has been accessed -/
  | outside
  deriving DecidableEq

/-- How the process ends with an exception, or without a defined behaviour. -/
def KeyboardPc.ofException : CppException → KeyboardPc
  | .undefined => .outside
  | _ => .threw

/-- The keyboard thread, the object it shares with the receiving thread, and the files. -/
structure KeyboardThread where
  cin : Istream
  protocol : StompProtocol := {}
  /-- the field `terminate` of the object -/
  terminate : Bool := false
  files : Dict Str Str := ∅
  pc : KeyboardPc := .loop

/-- The steps of the two threads. -/
inductive KeyboardEvent
  /-- the keyboard thread goes on -/
  | keyboard (surroundings : Surroundings)
  /-- the receiving thread handles a frame -/
  | frame (frame : Str)
  /-- the connection is lost -/
  | lost

namespace KeyboardThread

/-- What `run` does with the words of a line. -/
def runCommand (k : KeyboardThread) (surroundings : Surroundings) (parameters : List Str) :
    Except CppException KeyboardThread := do
  let command ← vectorFront parameters
  if command = "terminate" then return { k with terminate := true }
  else if command = "login" then
    let (protocol, _) ←
      k.protocol.handleLoginRequest parameters surroundings.connects surroundings.writes
    return { k with protocol := protocol }
  else if command = "join" then
    let (protocol, _) ← k.protocol.handleJoinRequest parameters
    return { k with protocol := protocol }
  else if command = "exit" then
    let (protocol, _) ← k.protocol.handleExitRequest parameters
    return { k with protocol := protocol }
  else if command = "report" then
    let filePath ← vectorAt parameters 1
    match surroundings.parseEventsFile filePath with
    | some infoForFrames =>
      let (protocol, _) ← k.protocol.handleReportRequest infoForFrames
      return { k with protocol := protocol }
    -- what the JSON library throws is not caught
    | none => return { k with pc := .threw }
  else if command = "summary" then
    let (files, _) ← k.protocol.handleSummaryRequest parameters k.files
    return { k with files := files }
  else if command = "logout" then
    return { k with protocol := k.protocol.handleLogoutRequest.1, pc := .poll }
  else return k

/-- The line that is read next: `std::string` takes what is in `buf` up to a NUL. -/
def nextLine (k : KeyboardThread) : Str := (k.cin.getline 1024).1.takeWhile (· ≠ '\x00')

/-- The next step of `run`. -/
def keyboardStep (k : KeyboardThread) (surroundings : Surroundings) : KeyboardThread :=
  match k.pc with
  | .loop =>
    if k.terminate then { k with pc := .returned }
    else
      let parameters := extractParameters k.nextLine
      let k := { k with cin := (k.cin.getline 1024).2 }
      match k.runCommand surroundings parameters with
      | .ok k => k
      | .error x => { k with pc := .ofException x }
  | .poll => if k.protocol.waitingForDisconnect then k else { k with pc := .loop }
  | _ => k

/-- The receiving thread handles a frame while the client is connected. -/
def receive (k : KeyboardThread) (frame : Str) : KeyboardThread :=
  if k.pc = .threw ∨ k.pc = .outside ∨ k.protocol.handler.connected = false then k
  else
    match k.protocol.processFrame frame with
    | .ok protocol => { k with protocol := protocol }
    | .error x => { k with pc := .ofException x }

/-- One step. -/
def step (k : KeyboardThread) : KeyboardEvent → KeyboardThread
  | .keyboard surroundings => k.keyboardStep surroundings
  | .frame frame => k.receive frame
  | .lost => { k with protocol.handler.writable := false }

/-- The client has been started with this input. -/
def run (input : Str) (es : List KeyboardEvent) : KeyboardThread :=
  Machine.run step { cin := { rest := input } } es

end KeyboardThread

end WorldCupInformer.Client
