import SmartSensorNetwork.Network.TcpExceptions
import SmartSensorNetwork.Ui.ConsoleRenderer

/-!
# The shape of the table

A column shows a text up to its width. A line break in what it shows breaks the
row in two, and a text that is only as an `int` no longer than its column leaves
no table.
-/

namespace SmartSensorNetwork.ConsoleRenderer

open CppStd TcpServer

def ellipsis : ByteString := ascii "..."

def visible (width : ℕ) (text : ByteString) : ByteString := FixedWidth.visible width ellipsis text

/-- What `fitText` is for: the text padded with spaces, or cut at an ellipsis. -/
def fit (width : ℕ) (text : ByteString) : ByteString := FixedWidth.fitted width 32 ellipsis text

def unbroken (text : ByteString) : Bool := text.all fun b ↦ !isLineEnd b

structure BodyRows (logs rows : List ByteString) : Prop where
  length_eq : rows.length = max logs.length 11
  width : ∀ row ∈ rows, row.length = 106
  unbroken : ∀ row ∈ rows, unbroken row
  left : ∀ i (h : i < rows.length), (rows[i].drop 2).take systemWidth =
    fit systemWidth (logs.getD i [])

def KeepsShape (logger : Logger) (tcpServer : TcpServer) (stats : SystemStats) : Prop :=
  ∃ rows, BodyRows logger.getRecentLogs rows ∧
    renderLogs logger tcpServer stats = some (unlines (titles ++ rows ++ [rule]))

/-- The counters of the source are of type `size_t`. -/
structure Representable (stats : SystemStats) : Prop where
  totalSensors : stats.totalSensors < 2 ^ 64
  online : stats.health.online < 2 ^ 64
  offline : stats.health.offline < 2 ^ 64

/-- The cast to `int` does not hide that the text is too long. -/
def SizeFits (width : ℕ) (text : ByteString) : Prop :=
  text.length ≤ width ∨ width < toInt text.length

/-- A column prints the text on one row. -/
structure Prints (width : ℕ) (text : ByteString) : Prop where
  size : SizeFits width text
  unbroken : unbroken (visible width text)

/-! ## Line breaks -/

theorem unbroken_iff {text : ByteString} : unbroken text ↔ ∀ b ∈ text, isLineEnd b = false := by
  simp [unbroken]

@[simp] theorem unbroken_append (text more : ByteString) :
    unbroken (text ++ more) = (unbroken text && unbroken more) :=
  List.all_append

theorem unbroken_visible {text : ByteString} (h : unbroken text) (width : ℕ) :
    unbroken (visible width text) := by
  apply unbroken_iff.mpr
  intro b hb
  exact unbroken_iff.mp h b (FixedWidth.mem_of_mem_visible width ellipsis text hb)

theorem unbroken_fit_iff {width : ℕ} {text : ByteString} :
    unbroken (fit width text) ↔ unbroken (visible width text) := by
  constructor
  · intro h
    apply unbroken_iff.mpr
    intro b hb
    have hbegins := FixedWidth.visible_prefix_fitted width 32 ellipsis text
    exact unbroken_iff.mp h b (hbegins.subset hb)
  · intro h
    apply unbroken_iff.mpr
    intro b hb
    rcases FixedWidth.mem_fitted width 32 ellipsis text hb with hb | rfl | hb
    · exact unbroken_iff.mp h b hb
    · decide
    · have hdots : unbroken ellipsis := by decide
      exact unbroken_iff.mp hdots b hb

theorem unbroken_to_string (n : ℕ) : unbroken (CppStd.to_string n) := by
  apply unbroken_iff.mpr
  intro b hb
  have hdigit := isdigit_of_mem_to_string hb
  apply Bool.eq_false_iff.mpr
  intro hend
  simp only [isLineEnd, Bool.or_eq_true, decide_eq_true_eq] at hend
  rcases hend with rfl | rfl
  · exact absurd hdigit (by decide)
  · exact absurd hdigit (by decide)

/-! ## One column -/

theorem bmod_le (size modulus : ℕ) : Int.bmod size modulus ≤ size := by
  have hmod : ((size % modulus : ℕ) : ℤ) ≤ size := Int.ofNat_le.mpr (Nat.mod_le size modulus)
  rw [Int.natCast_mod] at hmod
  rw [Int.bmod_def]
  split_ifs
  · exact hmod
  · exact (Int.sub_le_self _ (Int.natCast_nonneg _)).trans hmod

theorem toInt_le (size : ℕ) : toInt size ≤ size := bmod_le size (2 ^ 32)

theorem toInt_of_lt {size : ℕ} (h : size < 2 ^ 31) : toInt size = size := by
  apply Int.bmod_eq_of_le_mul_two
  · push_cast
    omega
  · push_cast
    omega

theorem fitText_eq {width : ℕ} {text : ByteString} (h : SizeFits width text) :
    fitText text width = some (fit width text) := by
  have hle := toInt_le text.length
  rw [fitText, fit, FixedWidth.fitted]
  rcases h with hshort | hlong
  · rw [if_pos (by omega), if_pos hshort, if_pos hshort]
  · rw [if_neg (by omega), if_neg (by omega)]
    rfl

theorem sizeFits_of_fitText {width : ℕ} {text : ByteString} (h : (fitText text width).isSome) :
    SizeFits width text := by
  by_contra hnone
  obtain ⟨hlong, hnegative⟩ := not_or.mp hnone
  rw [fitText, if_pos (not_lt.mp hnegative), if_neg hlong] at h
  cases h

theorem prints_of_unbroken {text : ByteString} (h : unbroken text) (hsize : text.length < 2 ^ 31)
    (width : ℕ) : Prints width text where
  size := by
    rw [SizeFits, toInt_of_lt hsize]
    omega
  unbroken := unbroken_visible h width

theorem prints_nil (width : ℕ) : Prints width [] := prints_of_unbroken rfl (by norm_num) width

/-! ## One row -/

def bodyRow (logLine tcpLine : ByteString) : ByteString :=
  ascii "| " ++ (fit systemWidth logLine ++ (ascii " | " ++ (fit tcpWidth tcpLine ++ ascii " |")))

theorem length_fit_systemWidth (text : ByteString) : (fit systemWidth text).length = 75 :=
  FixedWidth.length_fitted systemWidth 32 ellipsis text (by decide)

theorem length_fit_tcpWidth (text : ByteString) : (fit tcpWidth text).length = 24 :=
  FixedWidth.length_fitted tcpWidth 32 ellipsis text (by decide)

theorem length_bodyRow (logLine tcpLine : ByteString) : (bodyRow logLine tcpLine).length = 106 := by
  simp only [bodyRow, List.length_append, length_fit_systemWidth, length_fit_tcpWidth]
  rfl

theorem left_bodyRow (logLine tcpLine : ByteString) :
    ((bodyRow logLine tcpLine).drop 2).take systemWidth = fit systemWidth logLine := by
  have hbar : (ascii "| ").length = 2 := rfl
  rw [bodyRow, List.drop_left' hbar]
  exact List.take_left' (length_fit_systemWidth logLine)

theorem unbroken_bodyRow_iff {logLine tcpLine : ByteString} :
    unbroken (bodyRow logLine tcpLine) ↔
      unbroken (visible systemWidth logLine) ∧ unbroken (visible tcpWidth tcpLine) := by
  have hbars : unbroken (ascii "| ") ∧ unbroken (ascii " | ") ∧ unbroken (ascii " |") := by decide
  obtain ⟨hleft, hmiddle, hright⟩ := hbars
  rw [← unbroken_fit_iff, ← unbroken_fit_iff, bodyRow]
  simp only [unbroken_append, hleft, hmiddle, hright, Bool.true_and, Bool.and_true,
    Bool.and_eq_true]

theorem printRow_eq {logLine tcpLine : ByteString} (hlog : SizeFits systemWidth logLine)
    (htcp : SizeFits tcpWidth tcpLine) :
    printRow logLine tcpLine = some (bodyRow logLine tcpLine ++ [10]) := by
  rw [printRow, fitText_eq hlog, fitText_eq htcp, bodyRow]
  simp only [List.append_assoc]
  rfl

theorem sizeFits_of_printRow {logLine tcpLine : ByteString} (h : (printRow logLine tcpLine).isSome) :
    SizeFits systemWidth logLine ∧ SizeFits tcpWidth tcpLine := by
  obtain ⟨row, hrow⟩ := Option.isSome_iff_exists.mp h
  rw [printRow] at hrow
  obtain ⟨left, hleft, hrest⟩ := Option.bind_eq_some_iff.mp hrow
  obtain ⟨right, hright, -⟩ := Option.bind_eq_some_iff.mp hrest
  constructor
  · apply sizeFits_of_fitText
    rw [hleft]
    rfl
  · apply sizeFits_of_fitText
    rw [hright]
    rfl

/-! ## All rows -/

section

variable (logger : Logger) (tcpServer : TcpServer) (stats : SystemStats)

def maxLines : ℕ := max logger.getRecentLogs.length (tcpPanel tcpServer stats).length

def logLine (i : ℕ) : ByteString := logger.getRecentLogs.getD i []

def tcpLine (i : ℕ) : ByteString := (tcpPanel tcpServer stats).getD i []

def bodyRows : List ByteString :=
  (List.range (maxLines logger tcpServer stats)).map fun i ↦
    bodyRow (logLine logger i) (tcpLine tcpServer stats i)

variable {logger tcpServer stats}

theorem renderLogs_eq_bind : renderLogs logger tcpServer stats =
    ((List.range (maxLines logger tcpServer stats)).mapM fun i ↦
      printRow (logLine logger i) (tcpLine tcpServer stats i)).bind fun rows ↦
        some (unlines titles ++ rows.flatten ++ unlines [rule]) := rfl

theorem renderLogs_eq_bodyRows
    (h : ∀ i < maxLines logger tcpServer stats,
      SizeFits systemWidth (logLine logger i) ∧ SizeFits tcpWidth (tcpLine tcpServer stats i)) :
    renderLogs logger tcpServer stats =
      some (unlines (titles ++ bodyRows logger tcpServer stats ++ [rule])) := by
  have hrows := FixedWidth.mapM_eq_some fun i hi ↦
    printRow_eq (h i (List.mem_range.mp hi)).1 (h i (List.mem_range.mp hi)).2
  rw [renderLogs_eq_bind, hrows, Option.bind_some, unlines_append, unlines_append, bodyRows,
    unlines, unlines, unlines, List.map_map]
  rfl

theorem sizeFits_of_renderLogs {text : ByteString}
    (h : renderLogs logger tcpServer stats = some text) {i : ℕ}
    (hi : i < maxLines logger tcpServer stats) :
    SizeFits systemWidth (logLine logger i) ∧ SizeFits tcpWidth (tcpLine tcpServer stats i) := by
  rw [renderLogs_eq_bind] at h
  obtain ⟨rows, hrows, -⟩ := Option.bind_eq_some_iff.mp h
  exact sizeFits_of_printRow (FixedWidth.isSome_of_mapM hrows i (List.mem_range.mpr hi))

theorem length_bodyRows :
    (bodyRows logger tcpServer stats).length = max logger.getRecentLogs.length 11 := by
  rw [bodyRows, List.length_map, List.length_range]
  rfl

theorem length_of_mem_bodyRows {row : ByteString} (hrow : row ∈ bodyRows logger tcpServer stats) :
    row.length = 106 := by
  obtain ⟨i, -, rfl⟩ := List.mem_map.mp hrow
  exact length_bodyRow _ _

/-- The text of a table leaves no choice of its body rows. -/
theorem eq_bodyRows {rows : List ByteString} (h : BodyRows logger.getRecentLogs rows)
    (htext : unlines (titles ++ rows ++ [rule]) =
      unlines (titles ++ bodyRows logger tcpServer stats ++ [rule])) :
    rows = bodyRows logger tcpServer stats := by
  rw [unlines_append, unlines_append, unlines_append, unlines_append] at htext
  apply FixedWidth.eq_of_unlines_eq h.width fun row ↦ length_of_mem_bodyRows
  · rw [h.length_eq, length_bodyRows]
  · exact List.append_cancel_left (List.append_cancel_right htext)

/-- The table keeps its shape exactly when each column prints each of its lines. -/
theorem keepsShape_iff_lines : KeepsShape logger tcpServer stats ↔
    ∀ i < maxLines logger tcpServer stats,
      Prints systemWidth (logLine logger i) ∧ Prints tcpWidth (tcpLine tcpServer stats i) := by
  constructor
  · rintro ⟨rows, hrows, htext⟩ i hi
    have hsizes := fun j hj ↦ sizeFits_of_renderLogs (i := j) htext hj
    rw [renderLogs_eq_bodyRows hsizes] at htext
    have heq := eq_bodyRows hrows (Option.some.inj htext).symm
    have hmem : bodyRow (logLine logger i) (tcpLine tcpServer stats i) ∈ rows := by
      rw [heq]
      exact List.mem_map_of_mem (List.mem_range.mpr hi)
    obtain ⟨hlog, htcp⟩ := unbroken_bodyRow_iff.mp (hrows.unbroken _ hmem)
    exact ⟨⟨(hsizes i hi).1, hlog⟩, ⟨(hsizes i hi).2, htcp⟩⟩
  · intro h
    refine ⟨bodyRows logger tcpServer stats, ?_, ?_⟩
    · exact {
        length_eq := length_bodyRows
        width := fun row ↦ length_of_mem_bodyRows
        unbroken := fun row hrow ↦ by
          obtain ⟨i, hi, rfl⟩ := List.mem_map.mp hrow
          obtain ⟨hlog, htcp⟩ := h i (List.mem_range.mp hi)
          exact unbroken_bodyRow_iff.mpr ⟨hlog.unbroken, htcp.unbroken⟩
        left := fun i hi ↦ by
          simp only [bodyRows, List.getElem_map, List.getElem_range]
          exact left_bodyRow _ _ }
    · exact renderLogs_eq_bodyRows fun i hi ↦ ⟨(h i hi).1.size, (h i hi).2.size⟩

theorem keepsShape_iff_panel : KeepsShape logger tcpServer stats ↔
    (∀ entry ∈ logger.getRecentLogs, Prints systemWidth entry) ∧
      ∀ line ∈ tcpPanel tcpServer stats, Prints tcpWidth line := by
  have hlogs := FixedWidth.forall_getD_iff (prints_nil systemWidth)
    (le_max_left logger.getRecentLogs.length (tcpPanel tcpServer stats).length)
  have hpanel := FixedWidth.forall_getD_iff (prints_nil tcpWidth)
    (le_max_right logger.getRecentLogs.length (tcpPanel tcpServer stats).length)
  rw [keepsShape_iff_lines, ← hlogs, ← hpanel]
  exact forall₂_and

end

/-! ## The panel -/

def label : ByteString := ascii "Last command: "

theorem prints_label {text : ByteString} (htext : unbroken text) (hlength : text.length ≤ 24) :
    Prints tcpWidth text :=
  prints_of_unbroken htext (by omega) tcpWidth

theorem prints_counter {text : ByteString} (htext : unbroken text) (hlength : text.length ≤ 16)
    {n : ℕ} (hn : n < 2 ^ 64) : Prints tcpWidth (text ++ CppStd.to_string n) := by
  apply prints_of_unbroken
  · rw [unbroken_append, htext, unbroken_to_string]
    rfl
  · have hdigits : (CppStd.to_string n).length ≤ 20 :=
      (length_to_string_le_iff (by norm_num)).mpr (hn.trans (by norm_num))
    rw [List.length_append]
    omega

theorem prints_tcpPanel_iff {tcpServer : TcpServer} {stats : SystemStats}
    (hstats : Representable stats) :
    (∀ line ∈ tcpPanel tcpServer stats, Prints tcpWidth line) ↔
      Prints tcpWidth (label ++ tcpServer.getLastCommand) := by
  constructor
  · intro h
    apply h
    simp [tcpPanel, label]
  · intro hcommand line hline
    simp only [tcpPanel, List.mem_cons, List.not_mem_nil, or_false] at hline
    rcases hline with rfl | rfl | rfl | rfl | rfl | rfl | rfl | rfl | rfl | rfl | rfl
    · split_ifs
      · exact prints_label (by decide) (by decide)
      · exact prints_label (by decide) (by decide)
    · exact prints_label (by decide) (by decide)
    · exact hcommand
    · exact prints_label (by decide) (by decide)
    · exact prints_label (by decide) (by decide)
    · exact prints_label (by decide) (by decide)
    · exact prints_counter (by decide) (by decide) hstats.totalSensors
    · exact prints_counter (by decide) (by decide) (UInt64.toNat_lt _)
    · exact prints_counter (by decide) (by decide) (UInt64.toNat_lt _)
    · exact prints_counter (by decide) (by decide) hstats.online
    · exact prints_counter (by decide) (by decide) hstats.offline

/-! ## The last command -/

theorem prints_lastCommand_iff (i : Instant) (request : ByteString) (server : TcpServer) :
    Prints tcpWidth (label ++ ((processRequest i request).run server).2.getLastCommand) ↔
      Prints tcpWidth (label ++ normalize request) := by
  rw [getLastCommand, lastCommand_processRequest]
  split_ifs with hempty
  · rw [hempty]
    apply iff_of_true
    · exact prints_label (by decide) (by decide)
    · exact prints_label (by decide) (by decide)
  · rfl

theorem unbroken_visible_command (command : ByteString) :
    unbroken (visible tcpWidth (label ++ command)) ↔ unbroken (visible 10 command) := by
  have hlabel : unbroken label := by decide
  have hvisible := FixedWidth.visible_append tcpWidth ellipsis command label (by decide)
  rw [visible, hvisible, unbroken_append, hlabel, Bool.true_and]
  rfl

/-- After any request the table keeps its shape exactly when what it shows of
the log entries and of the command has no line break, and no size is lost. -/
theorem keepsShape_iff (logger : Logger) (server : TcpServer) (stats : SystemStats) (i : Instant)
    (request : ByteString) (hstats : Representable stats) :
    KeepsShape logger ((processRequest i request).run server).2 stats ↔
      (∀ entry ∈ logger.getRecentLogs,
        SizeFits 75 entry ∧ unbroken (visible 75 entry)) ∧
      SizeFits 24 (label ++ normalize request) ∧ unbroken (visible 10 (normalize request)) := by
  rw [keepsShape_iff_panel, prints_tcpPanel_iff hstats, prints_lastCommand_iff,
    ← unbroken_visible_command]
  apply and_congr
  · apply forall₂_congr
    intro entry _
    exact ⟨fun h ↦ ⟨h.size, h.unbroken⟩, fun h ↦ ⟨h.1, h.2⟩⟩
  · exact ⟨fun h ↦ ⟨h.size, h.unbroken⟩, fun h ↦ ⟨h.1, h.2⟩⟩

/-- An entry that is cut, and a command that is not. -/
theorem keepsShape_help : KeepsShape { history := [List.replicate 80 65] }
    ((processRequest ⟨{}, 0⟩ (ascii "help\r\n")).run {}).2 {} := by
  apply (keepsShape_iff _ {} {} ⟨{}, 0⟩ (ascii "help\r\n") ⟨by decide, by decide, by decide⟩).mpr
  refine ⟨?_, .inl (by decide), by decide⟩
  intro entry hentry
  rw [List.eq_of_mem_singleton hentry]
  exact ⟨.inr (by decide), by decide⟩

/-- The panel goes on with `b` on a line of its own. -/
theorem inner_line_break_splits_row :
    ¬ KeepsShape {} ((processRequest ⟨{}, 0⟩ (ascii "a\nb")).run {}).2 {} := by
  intro h
  have hpanel := (keepsShape_iff_panel.mp h).2
  have hcommand := (prints_tcpPanel_iff ⟨by decide, by decide, by decide⟩).mp hpanel
  rw [prints_lastCommand_iff] at hcommand
  exact absurd hcommand.unbroken (by decide)

end SmartSensorNetwork.ConsoleRenderer
