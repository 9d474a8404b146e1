import ServiceRegistry.Page
import ServiceRegistry.Proofs.Text.Markup
import ServiceRegistry.Proofs.Text.Utf8

/-!
# What reaches a page

A mark begins with two braces. Neither the templates apart from their marks, nor the titles and
names of the views have two braces in a row, so each replacement finds its one mark and nothing
else. The content of a view is put in last: it is never searched, whatever the address in it is.

Results:

* `fill_marked`: a template that has its mark at one place.
* `page_of_content`, `content_manage`: a page and the content of the table of services in closed
  form.
* `escaped_injective`, `escaped_mark`: different addresses are shown differently, and what looks
  like a mark is shown as it is.
* `render_separates`: the address appears on its page as markup text, and nothing else that comes
  from outside reaches a page.
-/

namespace ServiceRegistry.View

open Text (Passed)

/-! ## Texts without marks -/

/-- Whether a text has no two opening braces in a row and ends in none. -/
def isUnmarked : List Char → Bool
  | [] => true
  | [c] => c != '\x7b'
  | c :: d :: rest => (c != '\x7b' || d != '\x7b') && isUnmarked (d :: rest)

theorem toList_mark (name : String) :
    (mark name).toList = '\x7b' :: '\x7b' :: (name.toList ++ ['\x7d', '\x7d']) := by
  rw [mark, String.toList_append, String.toList_append]
  rfl

theorem mark_ne_nil (name : String) : (mark name).toList ≠ [] := by
  rw [toList_mark]
  exact List.cons_ne_nil _ _

/-- The scan for a mark passes over a text without two opening braces in a row. -/
theorem passed_of_isUnmarked {text : List Char} (clear : isUnmarked text = true) (name : String) :
    Passed (mark name).toList text := by
  intro new rest
  fun_induction isUnmarked text with
  | case1 => rfl
  | case2 c =>
    have absent : ¬ (mark name).toList.isPrefixOf (c :: rest) := by
      rw [toList_mark, List.isPrefixOf_iff_prefix, List.cons_prefix_cons]
      exact fun occurs => bne_iff_ne.mp clear occurs.1.symm
    exact Text.replaceAll_cons absent
  | case3 c d tail ih =>
    obtain ⟨here, clear⟩ := (Bool.and_eq_true _ _).mp clear
    have absent : ¬ (mark name).toList.isPrefixOf (c :: d :: (tail ++ rest)) := by
      rw [toList_mark, List.isPrefixOf_iff_prefix, List.cons_prefix_cons, List.cons_prefix_cons]
      rintro ⟨rfl, rfl, -⟩
      cases here
    exact (Text.replaceAll_cons absent).trans (congrArg (c :: ·) (ih clear))

/-- A template that has its mark at one place. -/
theorem fill_marked {name before after : String} (text : String)
    (passed : Passed (mark name).toList before.toList)
    (passed' : Passed (mark name).toList after.toList) :
    fill (mark name) text (before ++ mark name ++ after) = before ++ text ++ after := by
  rw [fill, ← String.toList_inj, String.toList_ofList]
  simp only [String.toList_append]
  exact Text.replaceAll_marked (mark_ne_nil name) passed passed'

/-! ## The templates -/

theorem isUnmarked_frame :
    isUnmarked frameStart.toList = true ∧ isUnmarked frameStyle.toList = true ∧
      isUnmarked frameBody.toList = true ∧ isUnmarked frameEnd.toList = true := by
  refine ⟨?_, ?_, ?_, ?_⟩
  · simp only [frameStart, lines, String.toList_intercalate, List.map_cons, List.map_nil]
    repeat rw [String.toList_ofList]
    decide +kernel
  · simp only [frameStyle, lines, String.toList_intercalate, String.toList_append, List.map_cons,
      List.map_nil]
    repeat rw [String.toList_ofList]
    decide +kernel
  · decide +kernel
  · decide +kernel

theorem isUnmarked_manageContent :
    isUnmarked manageStart.toList = true ∧ isUnmarked manageEnd.toList = true := by
  refine ⟨?_, ?_⟩
  · simp only [manageStart, lines, String.toList_intercalate, List.map_cons, List.map_nil]
    repeat rw [String.toList_ofList]
    decide +kernel
  · simp only [manageEnd, lines, String.toList_intercalate, String.toList_append, List.map_cons,
      List.map_nil]
    repeat rw [String.toList_ofList]
    decide +kernel

/-- A page by the title, the name and the content of its view. -/
def framed (title name content : String) : String :=
  frameStart ++ title ++ frameStyle ++ name ++ frameBody ++ content ++ frameEnd

/-- The three marks of the frame are replaced where they stand. The content may be any text. -/
theorem fill_frame {title name : String} (clear : isUnmarked title.toList = true)
    (clear' : isUnmarked name.toList = true) (content : String) :
    fill contentMark content (fill nameMark name (fill titleMark title frame)) =
      framed title name content := by
  obtain ⟨start, style, body, finish⟩ := isUnmarked_frame
  have titled : fill titleMark title frame =
      frameStart ++ title ++ frameStyle ++ nameMark ++ (frameBody ++ contentMark ++ frameEnd) := by
    have split : frame = frameStart ++ titleMark ++
        (frameStyle ++ nameMark ++ frameBody ++ contentMark ++ frameEnd) := by
      simp only [frame, String.append_assoc]
    rw [split, titleMark, fill_marked title (passed_of_isUnmarked start _)]
    · simp only [String.append_assoc]
    · simp only [String.toList_append]
      exact ((((passed_of_isUnmarked style _).append fun _ _ => rfl).append
        (passed_of_isUnmarked body _)).append fun _ _ => rfl).append (passed_of_isUnmarked finish _)
  have named : fill nameMark name (fill titleMark title frame) =
      frameStart ++ title ++ frameStyle ++ name ++ frameBody ++ contentMark ++ frameEnd := by
    rw [titled, nameMark, fill_marked name]
    · simp only [String.append_assoc]
    · simp only [String.toList_append]
      exact ((passed_of_isUnmarked start _).append (passed_of_isUnmarked clear _)).append
        (passed_of_isUnmarked style _)
    · simp only [String.toList_append]
      exact ((passed_of_isUnmarked body _).append fun _ _ => rfl).append
        (passed_of_isUnmarked finish _)
  rw [named, contentMark, fill_marked content _ (passed_of_isUnmarked finish _)]
  · rfl
  · simp only [String.toList_append]
    exact ((((passed_of_isUnmarked start _).append (passed_of_isUnmarked clear _)).append
      (passed_of_isUnmarked style _)).append (passed_of_isUnmarked clear' _)).append
      (passed_of_isUnmarked body _)

theorem fill_manageContent (text : String) :
    fill urlMark text manageContent = manageStart ++ text ++ manageEnd :=
  fill_marked text (passed_of_isUnmarked isUnmarked_manageContent.1 _)
    (passed_of_isUnmarked isUnmarked_manageContent.2 _)

/-! ## Views -/

/-- The names of the views that have a page. -/
def names : List String := titles.map Prod.fst

/-- The marks of the templates. -/
def marks : List String := [titleMark, nameMark, contentMark, urlMark]

/-- Neither the title nor the name of a view that has a page holds a mark. -/
theorem isUnmarked_name : ∀ name ∈ names,
    isUnmarked ((titles.lookup name).getD name).toList = true ∧
      isUnmarked (escaped name).toList = true := by
  decide +kernel

/-- The page of a view that has a content. -/
theorem page_of_content {view : View} {content : String} (known : view.content = .ok content)
    (mem : view.name ∈ names) :
    view.page = .ok (framed view.title (escaped view.name) content) := by
  obtain ⟨titled, named⟩ := isUnmarked_name view.name mem
  rw [page, known]
  exact congrArg Except.ok (fill_frame titled named content)

theorem content_manage (model : List (String × Json)) :
    content ⟨"manage", model⟩ =
      .ok (manageStart ++ escaped (shownUrl ⟨"manage", model⟩) ++ manageEnd) := by
  rw [← fill_manageContent]
  rfl

/-- A view whose content is fixed has one page, whatever its model is. -/
theorem render_of_fixed {name content : String}
    (known : ∀ model, View.content ⟨name, model⟩ = .ok content) (mem : name ∈ names) :
    ∃ response, ∀ model, render ⟨name, model⟩ = .ok response := by
  refine ⟨.content 200 "text/html; charset=utf-8"
    (framed ((titles.lookup name).getD name) (escaped name) content), fun model => ?_⟩
  rw [render, page_of_content (known model) mem]
  rfl

/-- A view of another name has no page. -/
theorem page_of_notMem {view : View} (h : view.name ∉ names) :
    view.page = .error (.unknownView view.name) := by
  simp only [names, titles, List.map_cons, List.map_nil, List.mem_cons, List.not_mem_nil, or_false,
    not_or] at h
  rw [page, content, if_neg h.1, if_neg h.2.1, if_neg h.2.2]
  rfl

/-! ## The address -/

theorem toList_escaped (text : String) : (escaped text).toList = Text.markup text.toList :=
  String.toList_ofList

theorem escaped_injective : Function.Injective escaped := by
  intro text other same
  have chars : Text.markup text.toList = Text.markup other.toList := by
    rw [← toList_escaped, same, toList_escaped]
  exact String.toList_inj.mp (Text.markup_injective chars)

/-- What looks like a mark is shown as it is. -/
theorem escaped_mark {mark : String} (known : mark ∈ marks) (before after : String) :
    escaped (before ++ mark ++ after) = escaped before ++ mark ++ escaped after := by
  have plain : ∀ mark ∈ marks, Text.markup mark.toList = mark.toList := by decide +kernel
  rw [← String.toList_inj]
  simp only [toList_escaped, String.toList_append, Text.markup_append, plain mark known]

/-- Texts of pages with different bodies. -/
theorem body_content_injective (status : Nat) (contentType : String) :
    Function.Injective fun text => (Http.Response.content status contentType text).body := by
  intro text other same
  have decoded := congrArg Text.utf8Decode same
  simp only [Http.Response.content, Text.utf8Decode_encode] at decoded
  exact String.toList_inj.mp (Except.ok.inj decoded)

/-- The table of services shows an address as markup text between two texts. The special characters
of the address are replaced one after the other, none of those that open or close a tag or a value
is left, and what looks like a mark is not replaced. -/
structure ShowsUrl (start finish : String) (view : View) : Prop where
  rendered : view.render = .ok (.content 200 "text/html; charset=utf-8"
    (start ++ escaped view.shownUrl ++ finish))
  replaced : (escaped view.shownUrl).toList =
    Text.entities.foldl (fun text pair => Text.replaceAll [pair.1] pair.2.toList text)
      view.shownUrl.toList
  closed : ∀ c ∈ (escaped view.shownUrl).toList, c ∉ Text.tagChars
  literal : ∀ mark ∈ marks, ∀ before after, view.shownUrl = before ++ mark ++ after →
    escaped view.shownUrl = escaped before ++ mark ++ escaped after

theorem showsUrl_manage (model : List (String × Json)) :
    ShowsUrl (frameStart ++ "Services Management" ++ frameStyle ++ "manage" ++ frameBody ++
      manageStart) (manageEnd ++ frameEnd) ⟨"manage", model⟩ where
  rendered := by
    have listed : "manage" ∈ names := by decide
    have named : escaped "manage" = "manage" := by decide +kernel
    rw [render, page_of_content (content_manage model) listed, named]
    simp only [Except.map, framed, String.append_assoc]
    rfl
  replaced := (toList_escaped _).trans (Text.markup_eq_foldl _)
  closed := by
    rw [toList_escaped]
    exact Text.tagChar_notMem_markup _
  literal mark known before after split := by rw [split, escaped_mark known]

/-- There are two texts between which the table of services shows its address as markup text, and
different addresses give different pages. The other two views have one page each, whatever their
model is, and a view of another name has none. -/
theorem render_separates :
    (∃ start finish : String, ∀ model, ShowsUrl start finish ⟨"manage", model⟩) ∧
    (∀ model other : List (String × Json),
      shownUrl ⟨"manage", model⟩ ≠ shownUrl ⟨"manage", other⟩ →
      ∀ response response', render ⟨"manage", model⟩ = .ok response →
        render ⟨"manage", other⟩ = .ok response' → response.body ≠ response'.body) ∧
    (∀ name ∈ ["logout", "authorizationFailure"], ∃ response, ∀ model,
      render ⟨name, model⟩ = .ok response) ∧
    (∀ view : View, view.name ∉ ["manage", "logout", "authorizationFailure"] →
      view.render = .error (.unknownView view.name) ∧
        (Fault.unknownView view.name).label = "ValueError") := by
  refine ⟨⟨_, _, showsUrl_manage⟩, ?_, fun name mem => ?_, fun view unknown => ⟨?_, rfl⟩⟩
  · intro model other differ response response' shown shown' same
    obtain rfl := Except.ok.inj ((showsUrl_manage model).rendered.symm.trans shown)
    obtain rfl := Except.ok.inj ((showsUrl_manage other).rendered.symm.trans shown')
    have texts := body_content_injective _ _ same
    have between := (String.append_right_inj _).mp ((String.append_left_inj _).mp texts)
    exact differ (escaped_injective between)
  · rcases List.mem_pair.mp mem with rfl | rfl
    · exact render_of_fixed (fun _ => rfl) (by decide)
    · exact render_of_fixed (fun _ => rfl) (by decide)
  · rw [render, page_of_notMem unknown]
    rfl

/-- An address with a mark and a tag, two addresses one of which looks like the other as markup
text, and a name that is nearly that of a view. -/
theorem render_separates_hostile :
    (∃ start finish : String,
      render (manage "\x7b\x7bCONTENT\x7d\x7d<b>&lt;") =
        .ok (.content 200 "text/html; charset=utf-8"
          (start ++ "\x7b\x7bCONTENT\x7d\x7d&lt;b&gt;&amp;lt;" ++ finish))) ∧
    (∀ response response', render (manage "<b>") = .ok response →
      render (manage "&lt;b&gt;") = .ok response' → response.body ≠ response'.body) ∧
    render ⟨"Manage", []⟩ = .error (.unknownView "Manage") := by
  obtain ⟨⟨start, finish, shows⟩, differ, -, unknown⟩ := render_separates
  refine ⟨⟨start, finish, ?_⟩, differ _ _ (by decide), (unknown ⟨"Manage", []⟩ (by decide)).1⟩
  have shown : escaped "\x7b\x7bCONTENT\x7d\x7d<b>&lt;" =
      "\x7b\x7bCONTENT\x7d\x7d&lt;b&gt;&amp;lt;" := by decide +kernel
  rw [← shown]
  exact (shows _).rendered

end ServiceRegistry.View
