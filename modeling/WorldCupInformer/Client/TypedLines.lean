import WorldCupInformer.Client.KeyboardThread
import WorldCupInformer.Client.VectorAccesses

/-!
# Typed lines

`run` takes the first word of every line, and hands the others to a handler, without looking at how
many there are.

* `inBounds_runCommand`: when the command of a line accesses elements of vectors only
  (`EnoughWords`);
* `step_spec`: what a step of the two threads changes;
* `outside_of_long`: what becomes of a run after a line that does not fit into the buffer;
* `vector_accesses_iff`: when no step of a run accesses an element outside a vector.
-/

namespace WorldCupInformer.Client

/-! ### The words of a command -/

/-- The number of words a command takes from its line. -/
def wordsRead (p : StompProtocol) (command : Str) : ℕ :=
  if command = "login" then if p.sentLoginRequest then 1 else 4
  else if command ∈ [lit "join", lit "exit", lit "report"] then 2
  else if command = "summary" then 4
  else 1

/-- The line has a word, and those its command takes; and there is something to report from a file
for whose game the client has a subscription. -/
structure EnoughWords (p : StompProtocol) (parseEventsFile : Str → Option NamesAndEvents)
    (typed : List Str) : Prop where
  words : wordsRead p (typed.headD []) ≤ typed.length
  events : ∀ filePath rest infoForFrames, typed = lit "report" :: filePath :: rest →
    parseEventsFile filePath = some infoForFrames → ¬ p.NothingToReport infoForFrames

variable {p : StompProtocol} {parseEventsFile : Str → Option NamesAndEvents} {rest : List Str}

theorem wordsRead_pos (p : StompProtocol) (command : Str) : 0 < wordsRead p command := by
  unfold wordsRead
  split_ifs <;> norm_num

theorem not_enoughWords_nil : ¬ EnoughWords p parseEventsFile [] :=
  fun h => (wordsRead_pos p []).not_ge h.words

theorem enoughWords_cons_iff {command : Str} (hreport : command ≠ "report") :
    EnoughWords p parseEventsFile (command :: rest) ↔
      wordsRead p command ≤ rest.length + 1 := by
  refine ⟨EnoughWords.words, fun h => ⟨h, fun filePath rest' infoForFrames heq => ?_⟩⟩
  exact absurd (List.cons.inj heq).1 hreport

theorem enoughWords_report_iff : EnoughWords p parseEventsFile (lit "report" :: rest) ↔
    ∃ filePath rest', rest = filePath :: rest' ∧
      ∀ infoForFrames, parseEventsFile filePath = some infoForFrames →
        ¬ p.NothingToReport infoForFrames := by
  have hread : wordsRead p "report" = 2 := by simp [wordsRead]
  constructor
  · rintro ⟨hwords, hevents⟩
    obtain ⟨filePath, rest', rfl⟩ : ∃ filePath rest', rest = filePath :: rest' := by
      refine List.exists_cons_of_ne_nil fun hnil => ?_
      rw [List.headD_cons, hread, hnil] at hwords
      exact absurd hwords (by decide)
    exact ⟨filePath, rest', rfl, fun infoForFrames => hevents filePath rest' infoForFrames rfl⟩
  · rintro ⟨filePath, rest', rfl, hevents⟩
    refine ⟨?_, fun filePath' rest'' infoForFrames heq => ?_⟩
    · rw [List.headD_cons, hread]
      simp
    · obtain ⟨rfl, -⟩ := List.cons.inj (List.cons.inj heq).2
      exact hevents infoForFrames

namespace KeyboardThread

variable {k k' : KeyboardThread} {surroundings : Surroundings}

/-- **The command of a line** is in bounds exactly when the line has enough words. -/
theorem inBounds_runCommand (hk : k.protocol.Recorded) (surroundings : Surroundings)
    (parameters : List Str) : InBounds (k.runCommand surroundings parameters) ↔
      EnoughWords k.protocol surroundings.parseEventsFile parameters := by
  unfold runCommand
  rw [inBounds_vectorFront_bind]
  cases parameters with
  | nil => exact iff_of_false (by simp) not_enoughWords_nil
  | cons command rest =>
    have hfront {P : Str → Prop} :
        (∃ a w, command :: rest = a :: w ∧ P a) ↔ P command := by simp
    rw [hfront]
    have hword (hread : wordsRead k.protocol command = 1) (hreport : command ≠ "report") :
        EnoughWords k.protocol surroundings.parseEventsFile (command :: rest) := by
      rw [enoughWords_cons_iff hreport, hread]
      exact Nat.le_add_left 1 _
    split_ifs with hterminate hlogin hjoin hexit hreport hsummary hlogout
    · subst hterminate
      exact iff_of_true (inBounds_pure _) (hword (by simp [wordsRead]) (by simp))
    · subst hlogin
      rw [inBounds_bind_iff fun _ => inBounds_pure _, StompProtocol.inBounds_handleLoginRequest,
        enoughWords_cons_iff (by simp)]
      cases hsent : k.protocol.sentLoginRequest with
      | true => simp [wordsRead, hsent]
      | false => simp [wordsRead, hsent]
    · subst hjoin
      rw [inBounds_bind_iff fun _ => inBounds_pure _, StompProtocol.inBounds_handleJoinRequest,
        enoughWords_cons_iff (by simp)]
      simp [wordsRead, Nat.lt_iff_add_one_le]
    · subst hexit
      rw [inBounds_bind_iff fun _ => inBounds_pure _, StompProtocol.inBounds_handleExitRequest,
        enoughWords_cons_iff (by simp)]
      simp [wordsRead, Nat.lt_iff_add_one_le]
    · subst hreport
      rw [inBounds_vectorAt_bind, enoughWords_report_iff]
      cases rest with
      | nil => simp
      | cons filePath rest =>
        have hlength : 1 < (lit "report" :: filePath :: rest).length := by simp
        rw [exists_prop_of_true hlength, List.getElem_cons_succ, List.getElem_cons_zero]
        cases hfile : surroundings.parseEventsFile filePath with
        | none => simp [hfile]
        | some infoForFrames =>
          dsimp only
          rw [inBounds_bind_iff fun _ => inBounds_pure _,
            StompProtocol.inBounds_handleReportRequest]
          simp [hfile]
    · subst hsummary
      rw [inBounds_bind_iff fun _ => inBounds_pure _, hk.inBounds_handleSummaryRequest,
        enoughWords_cons_iff (by simp)]
      simp [wordsRead]
    · subst hlogout
      exact iff_of_true (inBounds_pure _) (hword (by simp [wordsRead]) (by simp))
    · refine iff_of_true (inBounds_pure _) (hword ?_ hreport)
      simp [wordsRead, hlogin, hjoin, hexit, hreport, hsummary]

/-- A command reads no line, changes no game and goes on, unless it ends the process. -/
theorem runCommand_spec {parameters : List Str}
    (h : k.runCommand surroundings parameters = .ok k') :
    k'.cin = k.cin ∧ k'.protocol.gameToEvents = k.protocol.gameToEvents ∧
      (k'.pc = k.pc ∨ k'.pc = .threw ∨ k'.pc = .poll) := by
  obtain ⟨command, -, h⟩ := bind_eq_ok.1 h
  split_ifs at h
  · obtain rfl := Except.ok.inj h
    exact ⟨rfl, rfl, .inl rfl⟩
  · obtain ⟨⟨protocol, _⟩, hlogin, h⟩ := bind_eq_ok.1 h
    obtain rfl := Except.ok.inj h
    exact ⟨rfl, StompProtocol.gameToEvents_login hlogin, .inl rfl⟩
  · obtain ⟨⟨protocol, _⟩, hjoin, h⟩ := bind_eq_ok.1 h
    obtain rfl := Except.ok.inj h
    exact ⟨rfl, StompProtocol.gameToEvents_join hjoin, .inl rfl⟩
  · obtain ⟨⟨protocol, _⟩, hexit, h⟩ := bind_eq_ok.1 h
    obtain rfl := Except.ok.inj h
    exact ⟨rfl, StompProtocol.gameToEvents_exit hexit, .inl rfl⟩
  · obtain ⟨filePath, -, h⟩ := bind_eq_ok.1 h
    split at h
    · obtain ⟨⟨protocol, _⟩, hreport, h⟩ := bind_eq_ok.1 h
      obtain rfl := Except.ok.inj h
      exact ⟨rfl, StompProtocol.gameToEvents_report hreport, .inl rfl⟩
    · obtain rfl := Except.ok.inj h
      exact ⟨rfl, rfl, .inr (.inl rfl)⟩
  · obtain ⟨⟨files, _⟩, -, h⟩ := bind_eq_ok.1 h
    obtain rfl := Except.ok.inj h
    exact ⟨rfl, rfl, .inl rfl⟩
  · obtain rfl := Except.ok.inj h
    exact ⟨rfl, StompProtocol.gameToEvents_logout _, .inr (.inr rfl)⟩
  · obtain rfl := Except.ok.inj h
    exact ⟨rfl, rfl, .inl rfl⟩

/-- The line that a step reads, if it reads one, has enough words. -/
def ReadsEnoughWords (k : KeyboardThread) : KeyboardEvent → Prop
  | .keyboard surroundings => k.pc = .loop → k.terminate = false →
    EnoughWords k.protocol surroundings.parseEventsFile (words k.nextLine)
  | _ => True

/-- At the top of the loop a line is read, and no game changes. -/
theorem keyboardStep_loop (hloop : k.pc = .loop) (hterminate : k.terminate = false)
    (surroundings : Surroundings) : (k.keyboardStep surroundings).cin = (k.cin.getline 1024).2 ∧
      (k.keyboardStep surroundings).protocol.gameToEvents = k.protocol.gameToEvents := by
  unfold keyboardStep
  simp only [hloop, hterminate, Bool.false_eq_true, if_false]
  split
  · rename_i hrun
    obtain ⟨hcin, hgames, -⟩ := runCommand_spec hrun
    exact ⟨hcin, hgames⟩
  · exact ⟨rfl, rfl⟩

/-- Elsewhere only the place changes. -/
theorem keyboardStep_not_loop (h : k.pc = .loop → k.terminate = true)
    (surroundings : Surroundings) : (k.keyboardStep surroundings).cin = k.cin ∧
      (k.keyboardStep surroundings).protocol = k.protocol := by
  unfold keyboardStep
  split
  · rename_i hloop
    rw [if_pos (h hloop)]
    exact ⟨rfl, rfl⟩
  · split_ifs
    · exact ⟨rfl, rfl⟩
    · exact ⟨rfl, rfl⟩
  · exact ⟨rfl, rfl⟩

theorem receive_spec (k : KeyboardThread) (frame : Str) : (k.receive frame).cin = k.cin ∧
    ((k.receive frame).protocol = k.protocol ∨
      k.protocol.processFrame frame = .ok (k.receive frame).protocol) := by
  unfold receive
  split_ifs
  · exact ⟨rfl, .inl rfl⟩
  · split
    · rename_i hframe
      exact ⟨rfl, .inr hframe⟩
    · exact ⟨rfl, .inl rfl⟩

/-- A step reads a line or nothing, and games change with a frame only. -/
theorem step_spec (k : KeyboardThread) (e : KeyboardEvent) :
    ((k.step e).cin = k.cin ∨ (k.step e).cin = (k.cin.getline 1024).2) ∧
      ((k.step e).protocol.gameToEvents = k.protocol.gameToEvents ∨
        ∃ frame, k.protocol.processFrame frame = .ok (k.step e).protocol) := by
  cases e with
  | keyboard surroundings =>
    by_cases hread : k.pc = .loop → k.terminate = true
    · obtain ⟨hcin, hprotocol⟩ := keyboardStep_not_loop hread surroundings
      exact ⟨.inl hcin, .inl (congrArg (·.gameToEvents) hprotocol)⟩
    · obtain ⟨hloop, hterminate⟩ := Classical.not_imp.1 hread
      obtain ⟨hcin, hgames⟩ := keyboardStep_loop hloop
        (Bool.eq_false_of_not_eq_true hterminate) surroundings
      exact ⟨.inr hcin, .inl hgames⟩
  | frame frame =>
    obtain ⟨hcin, hprotocol | hframe⟩ := receive_spec k frame
    · exact ⟨.inl hcin, .inl (congrArg (·.gameToEvents) hprotocol)⟩
    · exact ⟨.inl hcin, .inr ⟨frame, hframe⟩⟩
  | lost => exact ⟨.inl rfl, .inl rfl⟩

/-- Every step leaves games whose events are recorded. -/
theorem recorded_step (hk : k.protocol.Recorded) (e : KeyboardEvent) :
    (k.step e).protocol.Recorded := by
  obtain ⟨-, hgames | ⟨frame, hframe⟩⟩ := step_spec k e
  · exact hk.congr hgames
  · exact hk.processFrame hframe

theorem pc_ofException_ne {x : CppException} :
    KeyboardPc.ofException x ≠ .outside ↔ x ≠ .undefined := by
  cases x <;> simp [KeyboardPc.ofException]

/-- A frame leads to no access outside a vector. -/
theorem pc_receive_ne (hpc : k.pc ≠ .outside) (frame : Str) : (k.receive frame).pc ≠ .outside := by
  unfold receive
  split_ifs
  · exact hpc
  · have hframe := StompProtocol.inBounds_processFrame k.protocol frame
    split
    · exact hpc
    · rename_i x hx
      rw [hx, inBounds_error] at hframe
      exact pc_ofException_ne.2 hframe

/-- **A step of the keyboard thread** is in bounds exactly when its line has enough words. -/
theorem pc_keyboardStep_ne_iff (hk : k.protocol.Recorded) (hpc : k.pc ≠ .outside) :
    (k.keyboardStep surroundings).pc ≠ .outside ↔
      k.ReadsEnoughWords (.keyboard surroundings) := by
  unfold ReadsEnoughWords keyboardStep
  cases hloop : k.pc with
  | loop =>
    cases hterminate : k.terminate with
    | true => simp
    | false =>
      have hrun := inBounds_runCommand (k := { k with cin := (k.cin.getline 1024).2 }) hk
        surroundings (extractParameters k.nextLine)
      rw [extractParameters_eq] at hrun
      simp only [hloop, hterminate, Bool.false_eq_true, if_false, forall_const,
        extractParameters_eq] at hrun ⊢
      rw [← hrun]
      split
      · rename_i k' hok
        obtain ⟨-, -, hpc'⟩ := runCommand_spec hok
        refine iff_of_true ?_ (hok ▸ inBounds_ok k')
        rcases hpc' with hpc' | hpc' | hpc' <;> simp [hpc']
      · rename_i x herror
        rw [herror, inBounds_error]
        exact pc_ofException_ne
  | poll =>
    refine iff_of_true ?_ (by simp)
    dsimp only
    split_ifs
    · exact hpc
    · simp
  | returned => exact iff_of_true hpc (by simp)
  | threw => exact iff_of_true hpc (by simp)
  | outside => exact absurd hloop hpc

/-- **One step** is in bounds exactly when the line it reads has enough words. -/
theorem pc_step_ne_iff (hk : k.protocol.Recorded) (hpc : k.pc ≠ .outside) (e : KeyboardEvent) :
    (k.step e).pc ≠ .outside ↔ k.ReadsEnoughWords e := by
  cases e with
  | keyboard surroundings => exact pc_keyboardStep_ne_iff hk hpc
  | frame frame => exact iff_of_true (pc_receive_ne hpc frame) trivial
  | lost => exact iff_of_true hpc trivial

/-! ### Lines and the buffer -/

/-- From a stream that has failed, an empty line is read. -/
theorem nextLine_of_not_good (h : k.cin.good = false) : k.nextLine = [] := by
  rw [nextLine, Istream.getline_of_not_good h]
  rfl

/-- A stream that has failed is not cleared. -/
theorem good_step (h : k.cin.good = false) (e : KeyboardEvent) : (k.step e).cin.good = false := by
  obtain ⟨hcin | hcin, -⟩ := step_spec k e
  · rwa [hcin]
  · rwa [hcin, Istream.getline_of_not_good h]

/-- After the stream has failed, the next line that is read leads to an access outside a vector. -/
theorem outside_of_not_good (hk : k.protocol.Recorded) (hgood : k.cin.good = false)
    (es : List KeyboardEvent) (hloop : (Machine.run step k es).pc = .loop)
    (hterminate : (Machine.run step k es).terminate = false) :
    ((Machine.run step k es).keyboardStep surroundings).pc = .outside := by
  have hrecorded : (Machine.run step k es).protocol.Recorded :=
    Machine.run_invariant (I := fun k : KeyboardThread => k.protocol.Recorded)
      (fun _ e hk => recorded_step hk e) hk es
  have hrest : (Machine.run step k es).cin.good = false :=
    Machine.run_invariant (I := fun k : KeyboardThread => k.cin.good = false)
      (fun _ e h => good_step h e) hgood es
  by_contra hpc
  have hwords := (pc_keyboardStep_ne_iff hrecorded (by simp [hloop])).1 hpc hloop hterminate
  rw [nextLine_of_not_good hrest, words_nil] at hwords
  exact not_enoughWords_nil hwords

/-- A line of 1024 characters or more does not fit. -/
theorem good_of_long {line rest : Str} (hcin : k.cin = { rest := line ++ rest })
    (hline : '\n' ∉ line) (hlong : 1024 ≤ line.length) (hloop : k.pc = .loop)
    (hterminate : k.terminate = false) :
    (k.step (.keyboard surroundings)).cin.good = false := by
  have hread : (k.step (.keyboard surroundings)).cin = (k.cin.getline 1024).2 :=
    (keyboardStep_loop hloop hterminate surroundings).1
  rw [hread, hcin, Istream.getline_of_long hline (by norm_num) hlong]

/-- **After a line of 1024 characters or more** there is no next line. -/
theorem outside_of_long {line rest : Str} (hk : k.protocol.Recorded)
    (hcin : k.cin = { rest := line ++ rest }) (hline : '\n' ∉ line) (hlong : 1024 ≤ line.length)
    (hloop : k.pc = .loop) (hterminate : k.terminate = false) (es : List KeyboardEvent)
    (hloop' : (Machine.run step k (.keyboard surroundings :: es)).pc = .loop)
    (hterminate' : (Machine.run step k (.keyboard surroundings :: es)).terminate = false)
    (surroundings' : Surroundings) :
    ((Machine.run step k (.keyboard surroundings :: es)).keyboardStep surroundings').pc =
      .outside :=
  outside_of_not_good (recorded_step hk _) (good_of_long hcin hline hlong hloop hterminate) es
    hloop' hterminate'

/-! ### Whole runs -/

/-- **No step of a run accesses an element outside a vector** if and only if every line that is read
has a word and those its command takes, and no file for a subscribed game is without events. -/
theorem vector_accesses_iff (input : Str) (es : List KeyboardEvent) :
    (∀ pre, pre <+: es → (run input pre).pc ≠ .outside) ↔
      Machine.Along step ReadsEnoughWords { cin := { rest := input } } es := by
  have hstart : StompProtocol.Recorded {} := fun gameName user game h => by simp at h
  exact (Machine.along_iff_forall_prefix (J := fun k : KeyboardThread => k.protocol.Recorded)
    (I := fun k : KeyboardThread => k.pc ≠ .outside) (fun _ e hk => recorded_step hk e)
    (fun _ e hk hpc => (pc_step_ne_iff hk hpc e).2)
    (fun _ e hk hpc => (pc_step_ne_iff hk hpc e).1) hstart (by simp) es).symm

/-- Somebody presses Enter. -/
theorem empty_line_outside : ¬ ∀ input es, (run input es).pc ≠ .outside := by
  intro h
  refine h (lit "\n") [.keyboard { connects := true, parseEventsFile := fun _ => none }] ?_
  decide

end KeyboardThread

end WorldCupInformer.Client
