import WorldCupInformer.Client.ReceivedMessages
import WorldCupInformer.Session.Framing
import WorldCupInformer.Session.Requests

/-!
# The reasons a client is shown

An ERROR frame repeats the message it answers, and lists the errors behind a line `-----`.  What
the client looks for is not that line: `find_last_of` finds the last `-` of the frame.

* `errorMessage_eq`: what is printed begins with the line end behind the last `-`;
* `error_reasons_shown_iff`: it is the list of the errors exactly when none of them has a `-`.
-/

namespace WorldCupInformer

open Client Server Utf8

/-! ### What is printed -/

/-- The last position of a character. -/
theorem findLastOf_eq {a b set : Str} {ch : Char} (hch : ch ∈ set) (hb : ∀ x ∈ b, x ∉ set) :
    findLastOf (a ++ ch :: b) set = a.length := by
  have hidx : (a ++ ch :: b).reverse.findIdx? (· ∈ set) = some b.length := by
    have hnone : b.reverse.findIdx? (· ∈ set) = none := by
      simpa [List.findIdx?_eq_none_iff] using hb
    simp [List.findIdx?_append, List.findIdx?_cons, hnone, hch]
  have hlen : (a ++ ch :: b).length = a.length + (b.length + 1) := by simp
  rw [findLastOf, hidx, hlen]
  simp
  omega

/-- **The text that is printed**: what stands behind the last `-`, from its line end on. -/
theorem errorMessage_eq {a b rest : Str} (hb : '-' ∉ b) (hline : '\n' ∉ b) (hrest : '-' ∉ rest) :
    StompProtocol.errorMessage (a ++ '-' :: (b ++ '\n' :: rest)) = .ok ('\n' :: rest) := by
  have hafter : ∀ x ∈ b ++ '\n' :: rest, x ∉ lit "-----" := by
    intro x hx hdash
    obtain rfl : x = '-' := by simpa [lit] using hdash
    simp [hb, hrest] at hx
  have hlast : findLastOf (a ++ '-' :: (b ++ '\n' :: rest)) "-----" = a.length :=
    findLastOf_eq (by decide) hafter
  have hfirst : '\n' ∉ '-' :: b := by simpa using hline
  have hend : find ('-' :: (b ++ '\n' :: rest)) "\n" = ('-' :: b).length :=
    find_lineEnd hfirst rest
  unfold StompProtocol.errorMessage
  rw [hlast, substr_append rfl, ok_bind, hend, ← List.cons_append]
  exact substr_append rfl

/-- The last `-` of a text made of lines. -/
theorem exists_last_dash {s : Str} (h : '-' ∈ s) (hs : s.getLast? = some '\n') :
    ∃ a b rest, s = a ++ '-' :: (b ++ '\n' :: rest) ∧ '-' ∉ b ∧ '\n' ∉ b ∧ '-' ∉ rest := by
  obtain ⟨b', a', hrev, hfree⟩ := List.eq_append_cons_of_mem (List.mem_reverse.2 h)
  have hcut : s = a'.reverse ++ '-' :: b'.reverse := by
    rw [← List.reverse_reverse s, hrev]
    simp
  have hnewline : '\n' ∈ b'.reverse := by
    cases b' with
    | nil => simp [hcut] at hs
    | cons x b' =>
      obtain rfl : x = '\n' := by
        rw [← List.head?_reverse, hrev] at hs
        simpa using hs
      simp
  obtain ⟨b, rest, hb, hline⟩ := List.eq_append_cons_of_mem hnewline
  have hfree' : '-' ∉ b ++ '\n' :: rest := by
    rw [← hb]
    simpa using hfree
  simp only [List.mem_append, List.mem_cons, not_or] at hfree'
  exact ⟨a'.reverse, b, rest, by rw [hcut, hb], hfree'.1, hline, hfree'.2.2⟩

/-- A text without the line ends around it. -/
def trimLines (s : Str) : Str := (s.dropWhile (· = '\n')).rdropWhile (· = '\n')

theorem mem_dropWhile_iff {ch : Char} (hch : ch ≠ '\n') {s : Str} :
    ch ∈ s.dropWhile (· = '\n') ↔ ch ∈ s := by
  constructor
  · exact fun h => (List.dropWhile_sublist _).subset h
  · intro h
    rw [← List.takeWhile_append_dropWhile (p := (· = '\n')) (l := s)] at h
    rcases List.mem_append.1 h with h | h
    · exact absurd (by simpa using List.mem_takeWhile_imp h) hch
    · exact h

theorem mem_trimLines_iff {ch : Char} (hch : ch ≠ '\n') {s : Str} : ch ∈ trimLines s ↔ ch ∈ s := by
  rw [trimLines, List.rdropWhile, List.mem_reverse, mem_dropWhile_iff hch, List.mem_reverse,
    mem_dropWhile_iff hch]

@[simp] theorem trimLines_cons_lineEnd (s : Str) : trimLines ('\n' :: s) = trimLines s := by
  simp [trimLines]

/-! ### The frame that arrives -/

/-- The table of a message that a decoder delivers. -/
def Parsed (hd : HeaderTable) : Prop := ∃ msg, Delivered msg ∧ orderMsgInHash msg = .ok hd

/-- An error with which the server answers some message. -/
def IsErrorLine (error : Str) : Prop :=
  ∃ s c h hd s₁ pre errors, Parsed hd ∧ Rejects s c h hd s₁ pre errors ∧ error ∈ errors

variable {hd : HeaderTable} {errors : List Str}

theorem Parsed.nulFree (h : Parsed hd) : hd.NulFree := by
  obtain ⟨msg, hmsg, htable⟩ := h
  obtain ⟨t, ht, rfl⟩ := hmsg.exists_text
  exact nulFree_of_orderMsgInHash ht htable

theorem Parsed.newline_notMem (h : Parsed hd) {receipt : Str}
    (hreceipt : hd.get "receipt" = some receipt) : '\n' ∉ receipt := by
  obtain ⟨msg, -, htable⟩ := h
  exact notMem_of_orderMsgInHash htable (by simp) (by simp) hreceipt

theorem IsErrorLine.nul_notMem {error : Str} (h : IsErrorLine error) : '\x00' ∉ error := by
  obtain ⟨s, c, h, hd, s₁, pre, errors, hparsed, hrej, hmem⟩ := h
  exact hrej.nul_notMem_errors hparsed.nulFree error hmem

/-- The header lines of an ERROR frame. -/
def errorHeader (hd : HeaderTable) : List Str :=
  ((hd.get "receipt").map (lit "receipt :" ++ ·)).toList ++ [lit "message :invalid frame recevied"]

/-- The body of an ERROR frame up to the last `-` before the errors. -/
def repeatedMessage (hd : HeaderTable) : Str :=
  "The Message: \n----- \n" ++ stringOf (hd.get "COMMAND") ++ "\n" ++
    hd.map.keys.flatMap (ErrorFrame.headerLine hd) ++ "\n" ++ stringOf (hd.get "BODY") ++ "\n----"

/-- The body of an ERROR frame. -/
def errorBody (errors : List Str) (hd : HeaderTable) : Str :=
  repeatedMessage hd ++ '-' :: (lit " " ++ '\n' :: unlines errors)

/-- An ERROR frame without its NUL. -/
def errorText (errors : List Str) (hd : HeaderTable) : Str :=
  lit "ERROR" ++ '\n' :: ((lit "\n").intercalate (errorHeader hd) ++ lit "\n\n" ++
    errorBody errors hd)

theorem toString_eq (errors : List Str) (hd : HeaderTable) :
    ErrorFrame.toString errors hd = errorText errors hd ++ lit "\x00" := by
  unfold ErrorFrame.toString errorText errorBody errorHeader repeatedMessage unlines
  cases hd.get "receipt" with
  | none => simp [ErrorFrame.receiptLine, lit]
  | some receipt => simp [ErrorFrame.receiptLine, lit, List.intercalate_cons_cons]

/-- An ERROR frame arrives as one. -/
theorem received_errorFrame (hhd : Parsed hd) (herrors : ∀ error ∈ errors, IsErrorLine error) :
    received [ErrorFrame.toString errors hd] = [bytesOf (errorText errors hd)] := by
  obtain ⟨t, hne, hfree, heq⟩ :=
    nulEnded_errorFrame hhd.nulFree fun error hmem => (herrors error hmem).nul_notMem
  have ht : errorText errors hd = t := List.append_cancel_right ((toString_eq _ _).symm.trans heq)
  have htext : ∀ text ∈ [t], text ≠ [] ∧ '\x00' ∉ text := List.forall_mem_singleton.2 ⟨hne, hfree⟩
  have hreceived := received_map htext
  rw [heq, ht]
  exact hreceived

theorem bytesOf_intercalate (ls : List Str) :
    bytesOf ((lit "\n").intercalate ls) = (lit "\n").intercalate (ls.map bytesOf) := by
  have hnewline : bytesOf (lit "\n") = lit "\n" := by decide
  induction ls with
  | nil => rfl
  | cons l ls ih =>
    cases ls with
    | nil => simp
    | cons l' ls =>
      rw [List.intercalate_cons_cons, bytesOf_append, bytesOf_append, hnewline, ih]
      exact List.intercalate_cons_cons.symm

/-- **An ERROR frame is cut into its parts**, whatever message it repeats. -/
theorem splitFrame_errorText (hhd : Parsed hd) (errors : List Str) :
    splitFrame (bytesOf (errorText errors hd)) =
      .ok ⟨"ERROR", (lit "\n").intercalate ((errorHeader hd).map bytesOf),
        bytesOf (errorBody errors hd)⟩ := by
  have hbytes : bytesOf (errorText errors hd) = lit "ERROR" ++
      '\n' :: ((lit "\n").intercalate ((errorHeader hd).map bytesOf) ++ lit "\n\n" ++
        bytesOf (errorBody errors hd)) := by
    have hcommand : bytesOf (lit "ERROR") = lit "ERROR" := by decide
    have hblank : bytesOf (lit "\n\n") = lit "\n\n" := by decide
    rw [errorText, bytesOf_append, bytesOf_cons (by decide), bytesOf_append, bytesOf_append,
      bytesOf_intercalate, hcommand, hblank]
  have hlines : ∀ l ∈ errorHeader hd, '\n' ∉ l ∧ l ≠ [] := by
    intro l hl
    rcases List.mem_append.1 hl with hl | hl
    · obtain ⟨receipt, hreceipt, rfl⟩ : ∃ receipt, hd.get "receipt" = some receipt ∧
          lit "receipt :" ++ receipt = l := by
        simpa using hl
      have hfree := hhd.newline_notMem hreceipt
      exact ⟨by simp [lit, hfree], by simp [lit]⟩
    · obtain rfl := List.mem_singleton.1 hl
      exact ⟨by decide, by decide⟩
  rw [hbytes]
  refine splitFrame_lines (by decide) (by simp [errorHeader]) (fun l hl => ?_) _
  obtain ⟨text, htext, rfl⟩ := List.mem_map.1 hl
  obtain ⟨hline, hne⟩ := hlines text htext
  refine ⟨fun h => hline ((mem_bytesOf_iff (by decide)).1 h), fun hnil => hne ?_⟩
  exact bytesOf_injective (hnil.trans bytesOf_nil.symm)

/-! ### The errors that are shown -/

/-- The client prints the errors of the ERROR frame, but for the line ends around them, and ends the
session without an exception. -/
def ShowsErrors (errors : List Str) (hd : HeaderTable) : Prop :=
  ∃ frame parts printed, received [ErrorFrame.toString errors hd] = [frame] ∧
    splitFrame frame = .ok parts ∧ parts.command = "ERROR" ∧
    StompProtocol.errorMessage parts.body = .ok printed ∧
    trimLines printed = trimLines (bytesOf (unlines errors)) ∧
    ∀ p : StompProtocol, p.processFrame frame = .ok p.logout

theorem mem_unlines_iff {ch : Char} (hch : ch ≠ '\n') :
    ch ∈ unlines errors ↔ ∃ error ∈ errors, ch ∈ error := by
  simp [unlines, lit, hch]

theorem getLast?_unlines (hne : errors ≠ []) : (unlines errors).getLast? = some '\n' := by
  obtain ⟨errors, error, rfl⟩ := List.eq_nil_or_concat errors |>.resolve_left hne
  simp [unlines, lit]

theorem bytesOf_unlines (errors : List Str) :
    bytesOf (unlines errors) = unlines (errors.map bytesOf) := by
  induction errors with
  | nil => rfl
  | cons error errors ih =>
    rw [unlines_cons, bytesOf_append, bytesOf_cons (by decide), ih, List.map_cons, unlines_cons]

theorem bytesOf_errorBody (errors : List Str) (hd : HeaderTable) :
    bytesOf (errorBody errors hd) =
      bytesOf (repeatedMessage hd) ++ '-' :: (lit " " ++ '\n' :: bytesOf (unlines errors)) := by
  rw [errorBody, bytesOf_append, bytesOf_cons (by decide), bytesOf_append, bytesOf_cons (by decide)]
  rfl

/-- What the client prints of an ERROR frame: the errors, or what stands behind the line of the last
`-` in them. -/
theorem errorMessage_errorBody (errors : List Str) (hd : HeaderTable) :
    ('-' ∉ unlines errors ∧ StompProtocol.errorMessage (bytesOf (errorBody errors hd)) =
      .ok ('\n' :: bytesOf (unlines errors))) ∨
    ('-' ∈ unlines errors ∧ ∃ rest, '-' ∉ rest ∧
      StompProtocol.errorMessage (bytesOf (errorBody errors hd)) = .ok ('\n' :: rest)) := by
  have hbytes : '-' ∈ bytesOf (unlines errors) ↔ '-' ∈ unlines errors :=
    mem_bytesOf_iff (by decide)
  rw [bytesOf_errorBody]
  by_cases hdash : '-' ∈ unlines errors
  · have hne : errors.map bytesOf ≠ [] := by
      rintro hnil
      rw [List.map_eq_nil_iff] at hnil
      simp [hnil] at hdash
    have hlast : (bytesOf (unlines errors)).getLast? = some '\n' := by
      rw [bytesOf_unlines]
      exact getLast?_unlines hne
    obtain ⟨a, b, rest, hcut, hb, hline, hrest⟩ := exists_last_dash (hbytes.2 hdash) hlast
    refine .inr ⟨hdash, rest, hrest, ?_⟩
    have heq := errorMessage_eq (a := bytesOf (repeatedMessage hd) ++ '-' :: (lit " " ++ '\n' :: a))
      hb hline hrest
    rw [hcut]
    simpa using heq
  · exact .inl ⟨hdash, errorMessage_eq (by decide) (by decide) (hbytes.not.2 hdash)⟩

/-- **The error reasons reach the user** exactly when none of them has a `-`. -/
theorem error_reasons_shown_iff (hhd : Parsed hd) (herrors : ∀ error ∈ errors, IsErrorLine error) :
    ShowsErrors errors hd ↔ ∀ error ∈ errors, '-' ∉ error := by
  have hsplit := splitFrame_errorText hhd errors
  have hdashes : '-' ∉ unlines errors ↔ ∀ error ∈ errors, '-' ∉ error := by
    rw [mem_unlines_iff (by decide)]
    push Not
    rfl
  rw [← hdashes]
  constructor
  · rintro ⟨frame, parts, printed, hframe, hparts, -, hprinted, htrim, -⟩ hdash
    obtain rfl : bytesOf (errorText errors hd) = frame := by
      rw [received_errorFrame hhd herrors] at hframe
      exact (List.cons.inj hframe).1
    obtain rfl := Except.ok.inj (hsplit.symm.trans hparts)
    rcases errorMessage_errorBody errors hd with ⟨hfree, -⟩ | ⟨-, rest, hrest, hmessage⟩
    · exact hfree hdash
    · obtain rfl := Except.ok.inj (hmessage.symm.trans hprinted)
      -- the printed text has no `-`, the errors have one
      have hshown : '-' ∈ trimLines (bytesOf (unlines errors)) :=
        (mem_trimLines_iff (by decide)).2 ((mem_bytesOf_iff (by decide)).2 hdash)
      rw [← htrim, trimLines_cons_lineEnd, mem_trimLines_iff (by decide)] at hshown
      exact hrest hshown
  · intro hfree
    rcases errorMessage_errorBody errors hd with ⟨-, hmessage⟩ | ⟨hdash, -⟩
    · refine ⟨_, _, _, received_errorFrame hhd herrors, hsplit, rfl, hmessage,
        trimLines_cons_lineEnd _, fun p => ?_⟩
      rw [StompProtocol.processFrame_of_splitFrame_error hsplit, StompProtocol.handleErrorFrame,
        hmessage]
      rfl
    · exact absurd hdash hfree

/-! ### A destination with a `-` -/

/-- A SEND of a client to a topic it has not subscribed to. -/
theorem exists_parsed_send {g : Str} (hg : Plain g) :
    ∃ hd, Parsed hd ∧ IsErrorLine (lit "User is not subscribed to: " ++ (lit "/" ++ g)) := by
  have hnul : '\x00' ∉ ([] : Str) := List.not_mem_nil
  obtain ⟨hd, hdecode, hsend, -⟩ := decodes_send hg hnul
  have hfree : '\x00' ∉ (lit "SEND\ndestination :/") ++ g ++ lit "\n\n" := by
    simp [lit, hg.nul]
  have hmsg : sendMessage g [] = (lit "SEND\ndestination :/") ++ g ++ lit "\n\n" ++ lit "\x00" := by
    simp [sendMessage, frameText, headerLine, lit]
  have hparsed : Parsed hd := ⟨_, hmsg ▸ delivered_concat hfree, hdecode⟩
  have hrej : Rejects {} 0 ⟨0⟩ hd {} [] [lit "User is not subscribed to: " ++ (lit "/" ++ g)] :=
    .send hsend.command hsend.destination rfl
  exact ⟨hd, hparsed, {}, 0, ⟨0⟩, hd, {}, [], _, hparsed, hrej, List.mem_singleton_self _⟩

/-- A user who reports on a topic `/germany-japan` without a subscription is not told so. -/
theorem not_forall_showsErrors : ¬ ∀ (hd : HeaderTable) (errors : List Str), Parsed hd →
    errors ≠ [] → (∀ error ∈ errors, IsErrorLine error) → ShowsErrors errors hd := by
  intro hall
  have hg : Plain "germany-japan" := ⟨⟨by decide, by decide, by decide⟩, by decide⟩
  obtain ⟨hd, hparsed, herror⟩ := exists_parsed_send hg
  have herrors := List.forall_mem_singleton.2 herror
  have hshown := hall hd _ hparsed (List.cons_ne_nil _ _) herrors
  have hfree := (error_reasons_shown_iff hparsed herrors).1 hshown
  exact absurd (List.forall_mem_singleton.1 hfree) (by decide)

theorem notSubscribed_shown : ∃ hd, Parsed hd ∧
    ShowsErrors [lit "User is not subscribed to: /germany_japan"] hd := by
  have hg : Plain "germany_japan" := ⟨⟨by decide, by decide, by decide⟩, by decide⟩
  obtain ⟨hd, hparsed, herror⟩ := exists_parsed_send hg
  exact ⟨hd, hparsed, (error_reasons_shown_iff hparsed (List.forall_mem_singleton.2 herror)).2
    (List.forall_mem_singleton.2 (by decide))⟩

end WorldCupInformer
