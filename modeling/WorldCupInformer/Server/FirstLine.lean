import WorldCupInformer.Server.Exceptions

/-!
# The command of a message

`orderMsgInHash` puts the command into the header table first, then the headers, then the body.  A
header named `COMMAND` takes the place of the command; one named `BODY` loses its own.

* `orderMsgInHash_cut`: the parts a message is cut into;
* `get_putHeaderLines`: of several header lines with one name, the last counts;
* `reads_command_and_body_iff`: the command is the first line exactly when the last header line
  named `COMMAND`, if there is one, repeats it.
-/

namespace WorldCupInformer

/-- The text before the first line end. -/
def firstLine (msg : Str) : Str := msg.takeWhile (· ≠ '\n')

/-- The text between the first blank line and the first NUL. -/
def IsBody (msg body : Str) : Prop :=
  ∃ head rest, msg = head ++ lit "\n\n" ++ body ++ lit "\x00" ++ rest ∧
    '\x00' ∉ head ++ lit "\n\n" ++ body ∧ ∀ m < head.length, ¬ lit "\n\n" <+: msg.drop m

/-- The values of the header lines with this name, in order. -/
def headerValues (name : Str) (ls : List Str) : List Str :=
  ls.filterMap fun l =>
    match split l " :" with
    | header :: value :: _ => if header = name then some value else none
    | _ => none

variable {msg : Str} {hd : HeaderTable}

/-- What stands between the first blank line and the first NUL. -/
theorem isBody_of_find? {bodyBegin bodyEnd : ℕ}
    (hblank : Text.find? (lit "\n\n") msg = some bodyBegin)
    (hend : Text.find? (lit "\x00") msg = some bodyEnd) (hle : bodyBegin + 2 ≤ bodyEnd) :
    IsBody msg ((msg.drop (bodyBegin + 2)).take (bodyEnd - (bodyBegin + 2))) := by
  have hhead : msg.take (bodyBegin + 2) = msg.take bodyBegin ++ lit "\n\n" := by
    obtain ⟨tail, htail⟩ := (Text.find?_spec hblank).1
    rw [List.take_add, ← htail]
    rfl
  -- the message up to the NUL is the head, the blank line and the body
  have hbefore : msg.take bodyEnd = msg.take bodyBegin ++ lit "\n\n" ++
      (msg.drop (bodyBegin + 2)).take (bodyEnd - (bodyBegin + 2)) := by
    have hsplit := List.take_append_drop (bodyBegin + 2) (msg.take bodyEnd)
    rw [List.take_take, min_eq_left hle, hhead, List.drop_take] at hsplit
    exact hsplit.symm
  have hafter : msg.drop bodyEnd = lit "\x00" ++ msg.drop (bodyEnd + 1) := by
    obtain ⟨tail, htail⟩ := (Text.find?_spec hend).1
    have htail' : tail = msg.drop (bodyEnd + 1) := by
      rw [← List.drop_drop, ← htail]
      rfl
    rw [← htail, htail']
  have hlength : (msg.take bodyBegin).length = bodyBegin := by
    have hlt := (Text.find?_spec hblank).2
    rw [List.length_take]
    omega
  refine ⟨msg.take bodyBegin, msg.drop (bodyEnd + 1), ?_, ?_, ?_⟩
  · rw [← hbefore, List.append_assoc, ← hafter, List.take_append_drop]
  · rw [← hbefore, Text.take_of_find? (x := '\x00') hend]
    exact fun hmem => by simpa using List.mem_takeWhile_imp hmem
  · rw [hlength]
    exact fun m hm => Text.not_prefix_of_find? hblank hm

/-- **The parts of a message** that is parsed. -/
theorem orderMsgInHash_cut (hmsg : orderMsgInHash msg = .ok hd) : ∃ ls body table,
    headerLines msg = some ls ∧ IsBody msg body ∧
    ls.foldlM putHeaderLine (HeaderTable.put {} "COMMAND" (firstLine msg)) = .ok table ∧
    hd = table.put "BODY" body := by
  unfold orderMsgInHash at hmsg
  simp only [bind_eq_ok] at hmsg
  obtain ⟨command, hcommand, body, hbody, headersMsg, hheaders, table, htable, hput⟩ := hmsg
  have hcommandLe := substring_ok_iff.1 ⟨command, hcommand⟩
  have hbodyLe := substring_ok_iff.1 ⟨body, hbody⟩
  have hheadersLe := substring_ok_iff.1 ⟨headersMsg, hheaders⟩
  obtain ⟨headerBegin, hbegin, hbeginIndex⟩ :=
    exists_find?_of_indexOf (s := msg) (p := "\n") (by omega)
  obtain ⟨bodyBegin, hblank, hblankIndex⟩ :=
    exists_find?_of_indexOf (s := msg) (p := "\n\n") (by omega)
  obtain ⟨bodyEnd, hend, hendIndex⟩ :=
    exists_find?_of_indexOf (s := msg) (p := "\x00") (by omega)
  rw [hbeginIndex] at hcommandLe hcommand hheadersLe hheaders
  rw [hblankIndex] at hbodyLe hbody hheadersLe hheaders
  rw [hendIndex] at hbodyLe hbody
  have hcut := substring_of_le (s := msg) (b := 0) (e := headerBegin) (by omega) (by omega)
  have hcutBody := substring_of_le (s := msg) (b := bodyBegin + 2) (e := bodyEnd) (by omega)
    (by omega)
  have hcutHeaders := substring_of_le (s := msg) (b := headerBegin + 1) (e := bodyBegin) (by omega)
    (by omega)
  push_cast at hcut hcutBody hcutHeaders
  obtain rfl := Except.ok.inj (hcommand.symm.trans hcut)
  obtain rfl := Except.ok.inj (hbody.symm.trans hcutBody)
  obtain rfl := Except.ok.inj (hheaders.symm.trans hcutHeaders)
  have hcommand : (msg.drop 0).take (headerBegin - 0) = firstLine msg := Text.take_of_find? hbegin
  have hlt : headerBegin < bodyBegin := by omega
  refine ⟨split ((msg.drop (headerBegin + 1)).take (bodyBegin - (headerBegin + 1))) "\n", _, table,
    ?_, ?_, hcommand ▸ htable, (Except.ok.inj hput).symm⟩
  · simp only [headerLines, hbegin, hblank, if_pos hlt]
  · exact isBody_of_find? hblank hend (by omega)

theorem putHeaderLine_get {table table' : HeaderTable} {l name : Str}
    (hput : putHeaderLine table l = .ok table') :
    table'.get name = (headerValues name [l]).getLast?.or (table.get name) := by
  unfold putHeaderLine at hput
  simp only [bind_eq_ok] at hput
  obtain ⟨header, hheader, value, hvalue, hput⟩ := hput
  obtain rfl := Except.ok.inj hput
  obtain ⟨rest, hsplit⟩ : ∃ rest, split l " :" = header :: value :: rest := by
    unfold arrayGet at hheader hvalue
    match hparts : split l " :" with
    | [] => simp [hparts] at hheader
    | [_] => simp [hparts] at hvalue
    | header' :: value' :: rest =>
      simp only [hparts, List.getElem?_cons_zero, List.getElem?_cons_succ, Except.ok.injEq]
        at hheader hvalue
      exact ⟨rest, by rw [hheader, hvalue]⟩
  refine (HeaderTable.get_put table header name value).trans ?_
  by_cases hname : name = header
  · simp [headerValues, hsplit, hname]
  · simp [headerValues, hsplit, hname, Ne.symm hname]

/-- **Of several header lines with one name, the last counts.** -/
theorem get_putHeaderLines (name : Str) {ls : List Str} {table table' : HeaderTable}
    (h : ls.foldlM putHeaderLine table = .ok table') :
    table'.get name = (headerValues name ls).getLast?.or (table.get name) := by
  induction ls generalizing table with
  | nil =>
    obtain rfl := Except.ok.inj h
    rfl
  | cons l ls ih =>
    rw [List.foldlM_cons] at h
    obtain ⟨table₁, hput, hrest⟩ := bind_eq_ok.1 h
    have hsplit : headerValues name (l :: ls) = headerValues name [l] ++ headerValues name ls :=
      List.filterMap_append (l := [l])
    rw [ih hrest, putHeaderLine_get hput, hsplit, List.getLast?_append, Option.or_assoc]

/-- The table has the first line as its command, and the body as its body. -/
structure ReadsCommandAndBody (msg : Str) (hd : HeaderTable) : Prop where
  command : hd.get "COMMAND" = some (firstLine msg)
  body : ∃ body, IsBody msg body ∧ hd.get "BODY" = some body

/-- **The command is the first line** exactly when no header line named `COMMAND`, or the last of
them, says otherwise.  The body is always that of the message. -/
theorem reads_command_and_body_iff (msg : Str) (hd : HeaderTable)
    (hmsg : orderMsgInHash msg = .ok hd) : ReadsCommandAndBody msg hd ↔
      ∀ ls ∈ headerLines msg, ∀ value ∈ (headerValues "COMMAND" ls).getLast?,
        value = firstLine msg := by
  obtain ⟨ls, body, table, hlines, hbody, htable, rfl⟩ := orderMsgInHash_cut hmsg
  have hcommand : (table.put "BODY" body).get "COMMAND" =
      (headerValues "COMMAND" ls).getLast?.or (some (firstLine msg)) := by
    simpa using get_putHeaderLines "COMMAND" htable
  have hbodyGet : (table.put "BODY" body).get "BODY" = some body := by simp
  rw [hlines]
  constructor
  · rintro hreads _ ⟨⟩ value hvalue
    have hsame := hcommand.symm.trans hreads.command
    rw [Option.mem_def.1 hvalue] at hsame
    exact Option.some.inj hsame
  · intro hlast
    refine ⟨hcommand.trans ?_, body, hbody, hbodyGet⟩
    cases hvalue : (headerValues "COMMAND" ls).getLast? with
    | none => rfl
    | some value => exact congrArg some (hlast ls rfl value hvalue)

/-- A SEND with a header named `COMMAND`. -/
def disguisedText : Str := "SEND\nCOMMAND :DISCONNECT\nreceipt :7\n\ngoal!\n\x00"

/-- It is handled as a DISCONNECT. -/
theorem not_forall_reads_command_and_body : ¬ ∀ (msg : Str) (hd : HeaderTable),
    orderMsgInHash msg = .ok hd → ReadsCommandAndBody msg hd := by
  intro hall
  obtain ⟨hd, hmsg, hcommand⟩ : Decodes disguisedText fun hd =>
      hd.get "COMMAND" = some (lit "DISCONNECT") := by decide +kernel
  have hreads := (hall disguisedText hd hmsg).command
  rw [hcommand] at hreads
  revert hreads
  decide +kernel

/-- Two headers with one name, and one named `BODY`. -/
def repeatedText : Str := "SEND\nBODY :own\nid :1\nid :2\n\ngoal!\n\x00"

/-- The last of the values with each name. -/
def repeatedTable : HeaderTable :=
  { (({} : HeaderTable).put "COMMAND" "SEND").put "id" "2" |>.put "BODY" "goal!\n" with
    bodyLine := true }

theorem repeatedText_reads : ReadsCommandAndBody repeatedText repeatedTable :=
  (reads_command_and_body_iff repeatedText repeatedTable rfl).2 (by decide +kernel)

end WorldCupInformer
