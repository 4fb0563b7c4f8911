import WordMerge.Proofs.Template.Runs
import WordMerge.Proofs.Template.SplitOrder

namespace WordMerge

/-- When a part is rendered: the reading, the sections and the data are without a fault. -/
theorem exists_renderPart_iff {source : Text} {data : Value} {options : RenderOptions} :
    (∃ out, renderPart source data options = .ok out) ↔
      (Layout.ofPart source).faults = [] ∧ ((Layout.ofPart source).nesting options).allFaults = [] ∧
        (Node.renderAll options.linebreaks [data] {}
          ((Layout.ofPart source).nesting options).nodes).faults = [] := by
  constructor
  · rintro ⟨out, rendered⟩
    obtain ⟨read, nested, evaluated, _⟩ := exists_of_renderPart rendered
    exact ⟨read, nested, evaluated⟩
  · rintro ⟨read, nested, evaluated⟩
    refine ⟨Cell.repair (Node.renderAll options.linebreaks [data] {}
      ((Layout.ofPart source).nesting options).nodes).xml, ?_⟩
    simp [renderPart, read, nested, evaluated]

/-- Two readings side by side end in two layouts with a fault, or in one layout and its counterpart. -/
theorem Reading.Parallel.layouts {w s : Reading} (parallel : Parallel [] w s) :
    (w.abandon.layout.faults ≠ [] ∧ s.abandon.layout.faults ≠ []) ∨
      (w.abandon.layout.faults = [] ∧ s.abandon.layout.faults = []) ∧
        ∃ ids, Layout.Split ids w.abandon.layout s.abandon.layout := by
  have kept {r : Reading} (faulty : r.faults ≠ []) : r.abandon.layout.faults ≠ [] := by
    intro clean
    have suffix := abandon_faults_suffix r
    rw [List.reverse_eq_nil_iff.mp clean, List.suffix_nil] at suffix
    exact faulty suffix
  have given {r : Reading} {tag : PendingTag} (under : r.pending = some tag) :
      r.abandon.layout.faults ≠ [] := by
    intro clean
    exact faults_abandon_ne_nil under (List.reverse_eq_nil_iff.mp clean)
  rcases parallel with ⟨left, right⟩ | together
  · exact .inl ⟨kept left, kept right⟩
  · obtain ⟨⟨ids, split⟩, _, _⟩ := together
    rcases rel_pending_cases split.pending with ⟨free, free'⟩ | ⟨p, q, under, under', _⟩
    · rw [abandon_of_pending free, abandon_of_pending free']
      refine .inr ⟨⟨?_, ?_⟩, ids, split.pieces, split.paragraphs, split.rows, ⟨_, _, split.cells⟩,
        split.tags⟩
      · exact List.reverse_eq_nil_iff.mpr split.clean.1
      · exact List.reverse_eq_nil_iff.mpr split.clean.2
    · exact .inl ⟨given under, given under'⟩

namespace Layout.Split

variable {ids : Counterparts} {whole cut : Layout}

/-- The sections of both layouts fit or those of none, and then the trees come to the same. -/
theorem nesting {Q : Text → Prop} (split : Split ids whole cut) (noted : whole.Noted)
    (noted' : cut.Noted) (placed : InPlace Q whole) (options : RenderOptions) :
    ((whole.nesting options).allFaults = [] ↔ (cut.nesting options).allFaults = []) ∧
      ((whole.nesting options).allFaults = [] →
        Node.Alike [] (whole.nesting options).nodes (cut.nesting options).nodes []) := by
  have alike := split.widened noted noted' placed options
  refine ⟨⟨fun clean => ?_, fun clean => ?_⟩, fun clean => ?_⟩
  · exact (Nesting.nodes_of_alike alike clean).1
  · exact (Nesting.nodes_of_alike alike.symm clean).1
  · exact (Nesting.nodes_of_alike alike clean).2

end Layout.Split

/-- A document has the same outcome as the one that has every text in one run. -/
theorem Document.Valid.renderPart_joined {document : Document} (valid : document.Valid) (data : Value)
    (options : RenderOptions) :
    ((∃ out, renderPart document.joined.source data options = .ok out) ↔
      ∃ out, renderPart document.source data options = .ok out) ∧
    ∀ out out', renderPart document.joined.source data options = .ok out →
      renderPart document.source data options = .ok out' →
      PlainText.ofPart out = PlainText.ofPart out' := by
  have layouts := valid.parallel.layouts
  change ((Layout.ofPart document.joined.source).faults ≠ [] ∧
      (Layout.ofPart document.source).faults ≠ []) ∨
    ((Layout.ofPart document.joined.source).faults = [] ∧
      (Layout.ofPart document.source).faults = []) ∧
      ∃ ids, Layout.Split ids (Layout.ofPart document.joined.source)
        (Layout.ofPart document.source) at layouts
  rw [exists_renderPart_iff, exists_renderPart_iff]
  rcases layouts with ⟨left, right⟩ | ⟨⟨left, right⟩, ids, split⟩
  · refine ⟨iff_of_false (fun all => left all.1) (fun all => right all.1), fun out _ rendered => ?_⟩
    exact absurd (exists_of_renderPart rendered).1 left
  · have placed := valid.joined.inPlace
    obtain ⟨sections, trees⟩ := split.nesting (Layout.noted_ofPart _) (Layout.noted_ofPart _) placed
      options
    have faults (clean : ((Layout.ofPart document.joined.source).nesting options).allFaults = []) :=
      Node.faults_of_alike (trees clean) options.linebreaks [data] (rfl : ({} : Draft).faults = _)
    refine ⟨?_, fun out out' rendered rendered' => ?_⟩
    · rw [and_iff_right left, and_iff_right right, ← sections]
      refine and_congr_right fun clean => ?_
      rw [faults clean]
    · have clean := (exists_of_renderPart rendered).2.1
      obtain ⟨row, comes, shown⟩ := placed.plainText_eq rendered
      obtain ⟨row', comes', shown'⟩ := valid.inPlace.plainText_eq rendered'
      have read := Node.read_of_alike (trees clean) (by simp [TextInnermost]) options.linebreaks comes
        comes' (p := {}) (by simp [PlainText.At]) (PlainText.Same.refl {})
      rw [shown, shown', read.2.text]

/-- Run splitting never matters: where the same texts stand in the same paragraphs, both documents are
rendered or none is, and they show the same text, however the texts are cut into runs. One of the
documents may have every text in one run. -/
theorem renderPart_of_joined_eq {document other : Document} (valid : document.Valid)
    (valid' : other.Valid) (same : document.joined = other.joined) (data : Value)
    (options : RenderOptions) :
    ((∃ out, renderPart document.source data options = .ok out) ↔
      ∃ out, renderPart other.source data options = .ok out) ∧
    ∀ out out', renderPart document.source data options = .ok out →
      renderPart other.source data options = .ok out' →
      PlainText.ofPart out = PlainText.ofPart out' := by
  obtain ⟨success, text⟩ := valid.renderPart_joined data options
  obtain ⟨success', text'⟩ := valid'.renderPart_joined data options
  rw [← same] at success' text'
  refine ⟨success.symm.trans success', fun out out' rendered rendered' => ?_⟩
  obtain ⟨between, joined⟩ := success.mpr ⟨out, rendered⟩
  exact (text between out joined rendered).symm.trans (text' between out' joined rendered')

/-- A table cell with a paragraph whose tag is cut into three runs, the first one of them bold. -/
def cutTag : Document where
  front := ['<', 'w', ':', 't', 'c', '>']
  body := [(⟨['<', 'w', ':', 'p', '>'], [], [⟨['<', 'w', ':', 'b', '/', '>'], ['\x7b']⟩, ⟨[], ['a']⟩,
    ⟨[], ['\x7d', '&', 'l', 't', ';']⟩]⟩, ['<', '/', 'w', ':', 't', 'c', '>'])]

/-- The cell with the text of its paragraph in one run, which is in italics. -/
def wholeTag : Document where
  front := ['<', 'w', ':', 't', 'c', '>']
  body := [(⟨['<', 'w', ':', 'p', '>'], [],
    [⟨['<', 'w', ':', 'i', '/', '>'], ['\x7b', 'a', '\x7d', '&', 'l', 't', ';']⟩]⟩,
    ['<', '/', 'w', ':', 't', 'c', '>'])]

theorem complete_cutTag : Entity.Complete ['\x7d', '&', 'l', 't', ';'] ∧
    Entity.Complete ['\x7b', 'a', '\x7d', '&', 'l', 't', ';'] := by
  have last : Entity.Complete ['&', 'l', 't', ';'] := Entity.complete_escape ['<']
  have front : Entity.Complete ['\x7b', 'a', '\x7d'] := Entity.complete_of_plain (by decide)
  have brace : Entity.Complete ['\x7d'] := Entity.complete_of_plain (by decide)
  exact ⟨brace.append last, front.append last⟩

/-- An empty tag other than a line break can stand among the properties of a run. -/
theorem properties_of_empty {xml : Text} {name : Text} (cut : Item.Cut xml)
    (edge : Edge.ofMarkup? xml = some ⟨name, .empty⟩) (other : name ≠ breakName) : Properties xml := by
  have scanned : Edge.scan xml = [⟨name, .empty⟩] := by
    rw [Edge.scan_of_cut cut, edge]
    rfl
  have role : Landmark.ofEdge ⟨name, .empty⟩ = .other := if_neg other
  refine ⟨cut.whole, by rw [cut.scan_eq, cut.markups_eq]; rfl, by rw [scanned]; rfl, ?_⟩
  rw [scanned, List.forall_mem_singleton, role]
  decide

theorem frame_of_cut {xml : Text} (cut : Item.Cut xml) (other : Edge.ofMarkup? xml ≠ some Edge.textOpening) :
    Frame xml := by
  refine ⟨cut.whole, Text.referenced_of_cut cut, ?_⟩
  rw [Edge.scan_of_cut cut]
  simpa using other

theorem valid_cutTag : cutTag.Valid ∧ wholeTag.Valid := by
  have start : Item.Cut ['<', 'w', ':', 'p', '>'] := Item.cut_of_scan (by decide +kernel) (by decide)
  have front : Frame ['<', 'w', ':', 't', 'c', '>'] :=
    frame_of_cut (Item.cut_of_scan (by decide +kernel) (by decide)) (by decide)
  have behind : Frame ['<', '/', 'w', ':', 't', 'c', '>'] :=
    frame_of_cut (Item.cut_of_scan (by decide +kernel) (by decide)) (by decide)
  have bold : Properties ['<', 'w', ':', 'b', '/', '>'] :=
    @properties_of_empty _ ['w', ':', 'b'] (Item.cut_of_scan (by decide +kernel) (by decide)) (by decide)
      (by decide)
  have italic : Properties ['<', 'w', ':', 'i', '/', '>'] :=
    @properties_of_empty _ ['w', ':', 'i'] (Item.cut_of_scan (by decide +kernel) (by decide)) (by decide)
      (by decide)
  have none : ∀ edge ∈ Edge.scan [], Landmark.ofEdge edge ≠ .rowEnd := by decide +kernel
  obtain ⟨last, all⟩ := complete_cutTag
  refine ⟨⟨?_, by decide +kernel, ?_⟩, ⟨?_, by decide +kernel, ?_⟩⟩
  · exact List.forall_mem_cons.mpr ⟨front, List.forall_mem_singleton.mpr behind⟩
  · refine List.forall_mem_singleton.mpr ⟨start, by decide, Properties.nil, none, ?_⟩
    refine List.forall_mem_cons.mpr ⟨?_, List.forall_mem_cons.mpr ⟨?_, List.forall_mem_singleton.mpr ?_⟩⟩
    · exact ⟨bold, by decide, Entity.complete_of_plain (by decide)⟩
    · exact ⟨Properties.nil, by decide, Entity.complete_of_plain (by decide)⟩
    · exact ⟨Properties.nil, by decide, last⟩
  · exact List.forall_mem_cons.mpr ⟨front, List.forall_mem_singleton.mpr behind⟩
  · refine List.forall_mem_singleton.mpr ⟨start, by decide, Properties.nil, none, ?_⟩
    exact List.forall_mem_singleton.mpr ⟨italic, by decide, all⟩

theorem exists_renderPart_wholeTag :
    ∃ out, renderPart wholeTag.source (.object [(['a'], .string ['x', '<'])]) {} = .ok out := by
  have found : (SectionPairs.scan {} 0 (Layout.ofPart wholeTag.source).pieces.toList).pairs = [] := by
    decide +kernel
  have pairs : SectionPairs.ofPieces (Layout.ofPart wholeTag.source).pieces.toList = [] := by
    rw [SectionPairs.ofPieces, found, List.mergeSort_nil]
  refine exists_renderPart_iff.mpr ?_
  unfold Layout.nesting Layout.widened Layout.plan
  rw [pairs]
  decide +kernel

/-- The tag is found in both forms, and both show the same. -/
theorem renderPart_of_joined_eq_cutTag :
    ∃ out out', renderPart cutTag.source (.object [(['a'], .string ['x', '<'])]) {} = .ok out ∧
      renderPart wholeTag.source (.object [(['a'], .string ['x', '<'])]) {} = .ok out' ∧
      PlainText.ofPart out = PlainText.ofPart out' := by
  obtain ⟨cut, whole⟩ := valid_cutTag
  have alike := renderPart_of_joined_eq cut whole (by decide)
    (.object [(['a'], .string ['x', '<'])]) {}
  obtain ⟨out', rendered'⟩ := exists_renderPart_wholeTag
  obtain ⟨out, rendered⟩ := alike.1.mpr ⟨out', rendered'⟩
  exact ⟨out, out', rendered, rendered', alike.2 out out' rendered rendered'⟩

end WordMerge
