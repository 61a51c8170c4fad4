import AlertRange.Log.Template

namespace AlertRange

def Slot.bare (kind : Char) : Slot :=
  ⟨none, [], none, none, kind⟩

theorem Slot.laidOut_ofText (kind : Char) (text : String) :
    (Slot.bare kind).laidOut 0 (ofText none text) = text.toList := by
  have unflagged : (Slot.bare kind).has '-' = false := rfl
  simp [laidOut, ofText, unflagged]

namespace Template

variable {arguments : Arguments} {value : Value} {values : List Value} {record : Option Value.Fields}
  {template text : List Char}

theorem fill_letter {c : Char} (ordinary : c ≠ '%') :
    fill arguments (c :: template) = (fill arguments template).map (c :: ·) := by
  rw [fill]
  · exact fun rest same => absurd same ordinary
  · exact fun same => absurd same ordinary

theorem fillSlot_bare (kind : Char) :
    fillSlot (.bare kind) ⟨value :: values, record⟩ =
      ((Slot.bare kind).filling none value).map fun filling =>
        ((Slot.bare kind).laidOut 0 filling, ⟨values, record⟩) := by
  change ((Slot.bare kind).filling none value >>= fun filling => pure _) = _
  cases (Slot.bare kind).filling none value <;> rfl

theorem fill_slot {kind : Char} (bare : Slot.read? (kind :: template) = some (.bare kind, template))
    (single : kind ≠ '%') :
    fill ⟨value :: values, record⟩ ('%' :: kind :: template) =
      ((Slot.bare kind).filling none value).bind fun filling =>
        (fill ⟨values, record⟩ template).map ((Slot.bare kind).laidOut 0 filling ++ ·) := by
  rw [fill]
  · split
    · next missing =>
      rw [bare] at missing
      cases missing
    · next slot rest found =>
      rw [bare] at found
      cases found
      rw [fillSlot_bare]
      cases (Slot.bare kind).filling none value <;> rfl
  · exact fun rest same => absurd (List.cons.inj same).1 single

/-- Templates of letters and of slots for a value as it is shown or as a literal, with the values for their
slots, and the texts they come to. -/
inductive Fills : List Char → List Value → List Char → Prop
  | done : Fills [] [] []
  | letter {template text : List Char} {values : List Value} {c : Char} (ordinary : c ≠ '%')
      (rest : Fills template values text) : Fills (c :: template) values (c :: text)
  | shown {template text : List Char} {values : List Value} {value : Value} (writable : value.Writable)
      (rest : Fills template values text) :
      Fills ('%' :: 's' :: template) (value :: values) (value.display.toList ++ text)
  | literal {template text : List Char} {values : List Value} {value : Value} (writable : value.Writable)
      (rest : Fills template values text) :
      Fills ('%' :: 'r' :: template) (value :: values) (value.literal.toList ++ text)

theorem filling_shown (value : Value) :
    (Slot.bare 's').filling none value = Slot.ofShown none value.shown? := rfl

theorem filling_literal (value : Value) :
    (Slot.bare 'r').filling none value = Slot.ofShown none value.literal? := rfl

theorem fill_of_fills (fills : Fills template values text) : fill ⟨values, record⟩ template = .ok text := by
  induction fills with
  | done => rw [fill, if_pos (Or.inl rfl)]
  | letter ordinary _ ih =>
    rw [fill_letter ordinary, ih]
    rfl
  | shown writable _ ih =>
    rw [fill_slot rfl (by decide), filling_shown, Value.shown?, Value.guarded_of_writable writable, ih]
    exact congrArg (fun shown => Except.ok (shown ++ _)) (Slot.laidOut_ofText _ _)
  | literal writable _ ih =>
    rw [fill_slot rfl (by decide), filling_literal, Value.literal?, Value.guarded_of_writable writable, ih]
    exact congrArg (fun shown => Except.ok (shown ++ _)) (Slot.laidOut_ofText _ _)

theorem Fills.letters {letters : List Char} (ordinary : '%' ∉ letters) (rest : Fills template values text) :
    Fills (letters ++ template) values (letters ++ text) := by
  induction letters with
  | nil => exact rest
  | cons c letters ih =>
    exact .letter (List.ne_of_not_mem_cons ordinary).symm (ih (List.not_mem_of_not_mem_cons ordinary))

theorem fill_letters_of_error {letters : List Char} (ordinary : '%' ∉ letters) {fault : TemplateFault}
    (stopped : fill arguments template = .error fault) : fill arguments (letters ++ template) = .error fault := by
  induction letters with
  | nil => exact stopped
  | cons c letters ih =>
    rw [List.cons_append, fill_letter (List.ne_of_not_mem_cons ordinary).symm,
      ih (List.not_mem_of_not_mem_cons ordinary)]
    rfl

theorem fill_of_fault {fault : TextFault} (unwritten : value.fault? = some fault) :
    fill ⟨value :: values, record⟩ ('%' :: 's' :: template) = .error (.unwritten fault) := by
  rw [fill_slot rfl (by decide), filling_shown, Value.shown?, Value.guarded, unwritten]
  rfl

theorem Fills.last (writable : value.Writable) : Fills ['%', 's'] [value] value.display.toList :=
  List.append_nil value.display.toList ▸ .shown writable .done

theorem text_of_two (template : String) (first second : Value) (rest : List Value) :
    Template.text template (first :: second :: rest) =
      (fill ⟨first :: second :: rest, none⟩ template.toList).map String.ofList := by
  have unnamed : Arguments.ofList (first :: second :: rest) = ⟨first :: second :: rest, none⟩ := by
    simp [Arguments.ofList]
  rw [Template.text, unnamed]
  rfl

theorem text?_of_fills {template text : String} {parts : List Char} (split : template.toList = parts)
    {first second : Value} {rest : List Value} (fills : Fills parts (first :: second :: rest) text.toList) :
    text? template (first :: second :: rest) = some text := by
  rw [text?, text_of_two, split, fill_of_fills fills]
  exact congrArg some String.ofList_toList

end Template

end AlertRange
