import WorldCupInformer.Server.StompMessagingProtocolImpl

/-!
# Messages made of lines

`frameText command headerLines body` is the message of a frame as it reaches `orderMsgInHash`, with
its NUL.

* `orderMsgInHash_frameText`: it is cut into the command, the header lines and the body;
* `orderMsgInHash_plain`: its table, when no header name and no value has a blank.
-/

namespace WorldCupInformer

/-- The message with these lines and this body. -/
def frameText (command : Str) (headerLines : List Str) (body : Str) : Str :=
  (lit "\n").intercalate (command :: headerLines) ++ "\n\n" ++ body ++ "\x00"

/-- A header line. -/
def headerLine (header value : Str) : Str := header ++ " :" ++ value

/-- A text that can be a line of a message. -/
structure IsLine (l : Str) : Prop where
  nonempty : l ≠ []
  newline : '\n' ∉ l
  nul : '\x00' ∉ l

/-- A text without the characters that mean something in a message. -/
structure Plain (v : Str) : Prop extends IsLine v where
  space : ' ' ∉ v

variable {command body : Str} {headerLines : List Str}

/-- `String.split` at every line end. -/
theorem split_intercalate {ls : List Str} (hne : ls ≠ []) (hls : ∀ l ∈ ls, IsLine l) :
    split ((lit "\n").intercalate ls) "\n" = ls := by
  have hpieces : Text.pieces (lit "\n") ((lit "\n").intercalate ls) = ls :=
    Text.pieces_intercalate hne fun l hl => (hls l hl).newline
  rw [split, hpieces]
  split_ifs
  · rfl
  · refine List.rdropWhile_eq_self_iff.2 fun hlast => ?_
    simpa using (hls _ (List.getLast_mem hlast)).nonempty

theorem notMem_intercalate {ch : Char} (hch : ch ≠ '\n') {ls : List Str}
    (hls : ∀ l ∈ ls, ch ∉ l) : ch ∉ (lit "\n").intercalate ls := by
  induction ls with
  | nil => simp
  | cons l ls ih =>
    have hl := hls l List.mem_cons_self
    have hrest := ih fun l' hl' => hls l' (List.mem_cons_of_mem l hl')
    cases ls with
    | nil => simpa using hl
    | cons l' ls =>
      rw [List.intercalate_cons_cons]
      simpa [hl, lit, hch] using hrest

/-- **The table of a message made of lines.** -/
theorem orderMsgInHash_frameText (hcmd : IsLine command) (hne : headerLines ≠ [])
    (hls : ∀ l ∈ headerLines, IsLine l) (hbody : '\x00' ∉ body) :
    orderMsgInHash (frameText command headerLines body) =
      (headerLines.foldlM putHeaderLine (HeaderTable.put {} "COMMAND" command)).map
        (HeaderTable.put · "BODY" body) := by
  have hall : ∀ l ∈ command :: headerLines, IsLine l := List.forall_mem_cons.2 ⟨hcmd, hls⟩
  set text : Str := (lit "\n").intercalate (command :: headerLines) with htext
  set headers : Str := (lit "\n").intercalate headerLines with hheaders
  have hcut : text = command ++ (lit "\n") ++ headers :=
    List.intercalate_cons_of_ne_nil hne
  have hmsg : frameText command headerLines body = text ++ (lit "\n\n") ++ body ++ (lit "\x00") :=
    rfl
  -- the three positions the source looks for
  have hbegin : indexOf (frameText command headerLines body) "\n" = command.length := by
    refine indexOf_eq ?_
    have hhere : Text.find? ['\n'] ('\n' :: (headers ++ (lit "\n\n") ++ body ++ (lit "\x00"))) =
        some 0 := Text.find?_of_prefix (by simp)
    have hskip := Text.find?_append (q := []) (s := '\n' :: (headers ++ (lit "\n\n") ++ body ++
      (lit "\x00"))) hcmd.newline
    rw [hhere] at hskip
    simpa [hmsg, hcut, lit] using hskip
  have hblank : indexOf (frameText command headerLines body) "\n\n" = text.length := by
    refine indexOf_eq ?_
    have hfind := Text.find?_intercalate (List.cons_ne_nil command headerLines)
      (fun l hl => (hall l hl).newline) (fun l hl => (hls l hl).nonempty) (body ++ lit "\x00")
    simpa [frameText, lit, htext] using hfind
  have hend : indexOf (frameText command headerLines body) "\x00" =
      (text.length + 2 + body.length : ℕ) := by
    refine indexOf_eq ?_
    have htextNul : '\x00' ∉ text := notMem_intercalate (by decide) fun l hl => (hall l hl).nul
    have hfree : '\x00' ∉ text ++ (lit "\n\n") ++ body := by simp [htextNul, hbody, lit]
    have hhere : Text.find? ['\x00'] ['\x00'] = some 0 := Text.find?_of_prefix (by simp)
    have hskip := Text.find?_append (q := []) (s := ['\x00']) hfree
    rw [hhere] at hskip
    have hlen : (text ++ (lit "\n\n") ++ body).length = text.length + 2 + body.length := by
      simp [lit, add_assoc, add_comm 2]
    rw [hmsg, ← hlen]
    exact hskip
  have hvalue : substring (frameText command headerLines body) 0 command.length = .ok command := by
    have h := substring_append [] command (lit "\n" ++ headers ++ lit "\n\n" ++ body ++ lit "\x00")
      (b := 0) (e := command.length) (by simp) (by simp)
    simpa [hmsg, hcut] using h
  have hbodyMsg : substring (frameText command headerLines body) (text.length + 2)
      (text.length + 2 + body.length : ℕ) = .ok body := by
    have h := substring_append (text ++ lit "\n\n") body (lit "\x00") (b := text.length + 2)
      (e := (text.length + 2 + body.length : ℕ)) (by simp [lit]) (by simp [lit])
    simpa [hmsg] using h
  have hheadersMsg : substring (frameText command headerLines body) (command.length + 1)
      text.length = .ok headers := by
    have h := substring_append (command ++ lit "\n") headers (lit "\n\n" ++ body ++ lit "\x00")
      (b := command.length + 1) (e := text.length) (by simp [lit]) (by simp [hcut, lit]; ring)
    simpa [hmsg, hcut] using h
  have hsplit : split headers "\n" = headerLines := split_intercalate hne hls
  unfold orderMsgInHash
  simp only [hbegin, hblank, hend, hvalue, hbodyMsg, hheadersMsg, hsplit, bind, Except.bind]
  cases headerLines.foldlM putHeaderLine (HeaderTable.put {} "COMMAND" command) <;> rfl

/-- What a header line puts into the table. -/
def putHeader (headersToValue : HeaderTable) (header : Str × Str) : HeaderTable :=
  { headersToValue.put header.1 header.2 with
    bodyLine := headersToValue.bodyLine || decide (header.1 = "BODY") }

theorem putHeaderLine_of_split (headersToValue : HeaderTable) {line header value : Str}
    (hsplit : split line " :" = [header, value]) :
    putHeaderLine headersToValue line = .ok (putHeader headersToValue (header, value)) := by
  simp [putHeaderLine, putHeader, hsplit, arrayGet, bind, Except.bind, pure, Except.pure]

/-- A header line is cut at its ` :`. -/
theorem putHeaderLine_eq (headersToValue : HeaderTable) {header value : Str} (hh : Plain header)
    (hv : Plain value) : putHeaderLine headersToValue (headerLine header value) =
      .ok (putHeader headersToValue (header, value)) := by
  have hpieces : Text.pieces (lit " :") (headerLine header value) = [header, value] := by
    have hcut := Text.pieces_prefix ' ' [':'] value
    rw [Text.pieces_of_notMem hv.space] at hcut
    have hskip := Text.pieces_append (q := [':']) (s := [' ', ':'] ++ value) hh.space
    rw [hcut] at hskip
    simpa [headerLine, lit] using hskip
  have hsplit : split (headerLine header value) " :" = [header, value] := by
    have hlast : List.rdropWhile (· = []) ([header] ++ [value]) = [header] ++ [value] :=
      List.rdropWhile_concat_neg _ _ _ (by simpa using hv.nonempty)
    rw [split, hpieces]
    simpa using hlast
  exact putHeaderLine_of_split headersToValue hsplit

namespace HeaderTable

@[simp] theorem get_empty (key : Str) : ({} : HeaderTable).get key = none := by simp [get]

@[simp] theorem get_put (headersToValue : HeaderTable) (key key' value : Str) :
    (headersToValue.put key value).get key' =
      if key' = key then some value else headersToValue.get key' :=
  Dict.lookup_insert _ _ _ _

@[simp] theorem get_putHeader (headersToValue : HeaderTable) (header : Str × Str) (key : Str) :
    (putHeader headersToValue header).get key =
      if key = header.1 then some header.2 else headersToValue.get key :=
  Dict.lookup_insert _ _ _ _

end HeaderTable

theorem isLine_headerLine {header value : Str} (hh : Plain header) (hv : Plain value) :
    IsLine (headerLine header value) where
  nonempty := by simp [headerLine, hh.nonempty]
  newline := by simp [headerLine, lit, hh.newline, hv.newline]
  nul := by simp [headerLine, lit, hh.nul, hv.nul]

/-- **The table of a message with plain headers.** -/
theorem orderMsgInHash_plain {headers : List (Str × Str)} (hcmd : IsLine command)
    (hne : headers ≠ []) (hplain : ∀ x ∈ headers, Plain x.1 ∧ Plain x.2) (hbody : '\x00' ∉ body) :
    orderMsgInHash (frameText command (headers.map fun x => headerLine x.1 x.2) body) =
      .ok ((headers.foldl putHeader (HeaderTable.put {} "COMMAND" command)).put "BODY" body) := by
  have hlines : ∀ l ∈ headers.map fun x => headerLine x.1 x.2, IsLine l := by
    intro l hl
    obtain ⟨x, hx, rfl⟩ := List.mem_map.1 hl
    exact isLine_headerLine (hplain x hx).1 (hplain x hx).2
  have hfold : ∀ table, (headers.map fun x => headerLine x.1 x.2).foldlM putHeaderLine table =
      .ok (headers.foldl putHeader table) := by
    clear hne hlines
    induction headers with
    | nil => exact fun table => rfl
    | cons x headers ih =>
      intro table
      have hx := hplain x List.mem_cons_self
      have hrest := ih fun y hy => hplain y (List.mem_cons_of_mem x hy)
      rw [List.map_cons, List.foldlM_cons, putHeaderLine_eq table hx.1 hx.2]
      exact hrest (putHeader table x)
  rw [orderMsgInHash_frameText hcmd (by simpa using hne) hlines hbody, hfold]
  rfl

/-! ### The table of any message -/

theorem mem_pieces_of_mem_split {s p l : Str} (hl : l ∈ split s p) : l ∈ Text.pieces p s := by
  unfold split at hl
  dsimp only at hl
  split_ifs at hl
  · exact hl
  · exact (List.rdropWhile_prefix _ _).subset hl

theorem mem_of_arrayGet {α : Type} {a : List α} {i : ℕ} {x : α} (h : arrayGet a i = .ok x) :
    x ∈ a := by
  unfold arrayGet at h
  split at h
  · obtain rfl := Except.ok.inj h
    exact List.mem_of_getElem? ‹_›
  · cases h

/-- What the header lines put into a table has been cut out of them. -/
theorem forall_get_of_putHeaderLines {P : Str → Str → Prop} {ls : List Str}
    (hls : ∀ l ∈ ls, ∀ header ∈ split l " :", ∀ value ∈ split l " :", P header value)
    {table hd : HeaderTable} (htable : ∀ key value, table.get key = some value → P key value)
    (h : ls.foldlM putHeaderLine table = .ok hd) :
    ∀ key value, hd.get key = some value → P key value := by
  induction ls generalizing table with
  | nil =>
    obtain rfl := Except.ok.inj h
    exact htable
  | cons l ls ih =>
    obtain ⟨hl, hls⟩ := List.forall_mem_cons.1 hls
    rw [List.foldlM_cons] at h
    obtain ⟨table', hput, hrest⟩ := bind_eq_ok.1 h
    refine ih hls (fun key value hget => ?_) hrest
    unfold putHeaderLine at hput
    simp only [bind_eq_ok] at hput
    obtain ⟨header, hheader, value', hvalue, hput⟩ := hput
    obtain rfl := Except.ok.inj hput
    have hput : (table.put header value').get key = some value := hget
    rw [HeaderTable.get_put] at hput
    split_ifs at hput with hkey
    · obtain rfl := Option.some.inj hput
      rw [hkey]
      exact hl header (mem_of_arrayGet hheader) value' (mem_of_arrayGet hvalue)
    · exact htable key value hput

/-- A header has no line end in its value, whatever the message. -/
theorem notMem_of_orderMsgInHash {msg key value : Str} {hd : HeaderTable}
    (hmsg : orderMsgInHash msg = .ok hd) (hkey : key ≠ "COMMAND") (hbody : key ≠ "BODY")
    (hvalue : hd.get key = some value) : '\n' ∉ value := by
  unfold orderMsgInHash at hmsg
  simp only [bind_eq_ok] at hmsg
  obtain ⟨cmd, -, bodyMsg, -, headersMsg, -, headers, hheaders, hput⟩ := hmsg
  obtain rfl := Except.ok.inj hput
  rw [HeaderTable.get_put, if_neg hbody] at hvalue
  have hlines : ∀ l ∈ split headersMsg "\n", ∀ part ∈ split l " :", '\n' ∉ part := by
    intro l hl part hpart hnewline
    have hinLine := Text.subset_of_mem_pieces (mem_pieces_of_mem_split hpart) hnewline
    exact Text.notMem_of_mem_pieces (mem_pieces_of_mem_split hl) hinLine
  refine forall_get_of_putHeaderLines (P := fun key value => key ≠ "COMMAND" → '\n' ∉ value)
    (fun l hl header _ value hvalue _ => hlines l hl value hvalue) (fun key value hget hkey => ?_)
    hheaders key value hvalue hkey
  simp [hkey] at hget

end WorldCupInformer
