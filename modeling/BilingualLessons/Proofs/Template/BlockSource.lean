import BilingualLessons.Proofs.Template.BlockGrammar
import BilingualLessons.Proofs.Template.TokenJoin

namespace BilingualLessons.Template

/-!
# Blocks around a source

A source between an opening tag and the closing tag of the same kind is one block, whatever stands
in it, as long as it is parsed on its own and sealed: then it cannot run into the closing tag.

* `openTag`, `elseTag`, `closeTag` — the tags of a block, as they are written.
* `tokenize_openTag`, `tokenize_elseTag`, `tokenize_closeTag` — each is one token.
* `tokenize_append_tag` — what starts with a tag is not joined to the source before it.
* `parse_block` — a block around a source has the nodes of the source inside.
-/

/-- The opening tag of a block. -/
def openTag (kind : BlockKind) (path : String) : String :=
  tagText ("#" ++ kind.keyword ++ " " ++ path)

/-- The tag between the two branches of a conditional. -/
def elseTag : String := tagText "else"

/-- The closing tag of a block. -/
def closeTag (kind : BlockKind) : String := tagText ("/" ++ kind.keyword)

/-- A tag without needless blanks is one token, and what follows it starts afresh on the same
    line. -/
theorem tokenize_tag {kind : TokenKind} {content : String} (htag : kind.isText = false)
    (h : kind.Legible) (hcontent : content.toList = kind.content .narrow) (rest : String) :
    tokenize (tagText content ++ rest) = (⟨kind, 1⟩ :: ·) <$> tokenize rest := by
  have hchars : (tagText content ++ rest).toList
      = '{' :: '{' :: kind.content .narrow ++ '}' :: '}' :: rest.toList := by
    simp [tagText, hcontent]
  rw [tokenize, tokenize, hchars, pieces_tag (brace_not_mem_content _ h), tokensFrom,
    classify_content _ htag h, lineEnds_content_narrow h]
  exact bind_ok_comp _ _

/-- An opening tag is one token. -/
theorem tokenize_openTag (kind : BlockKind) {path : String} (hp : isPath path = true)
    (rest : String) :
    tokenize (openTag kind path ++ rest) = (⟨.opener kind path, 1⟩ :: ·) <$> tokenize rest := by
  have hlegible : (TokenKind.opener kind path).Legible := hp
  refine tokenize_tag rfl hlegible ?_ rest
  simp [TokenKind.content, TokenKind.core, Padding.narrow]

/-- The tag between two branches is one token. -/
theorem tokenize_elseTag (rest : String) :
    tokenize (elseTag ++ rest) = (⟨.alternative, 1⟩ :: ·) <$> tokenize rest := by
  have hlegible : TokenKind.alternative.Legible := trivial
  refine tokenize_tag rfl hlegible ?_ rest
  simp [TokenKind.content, TokenKind.core, Padding.narrow]

/-- A closing tag is one token. -/
theorem tokenize_closeTag (kind : BlockKind) (rest : String) :
    tokenize (closeTag kind ++ rest) = (⟨.closer kind, 1⟩ :: ·) <$> tokenize rest := by
  have hlegible : (TokenKind.closer kind).Legible := trivial
  refine tokenize_tag rfl hlegible ?_ rest
  simp [TokenKind.content, TokenKind.core, Padding.narrow]

/-- A closing tag with nothing behind it. -/
theorem tokenize_closeTag_alone (kind : BlockKind) :
    tokenize (closeTag kind) = .ok [⟨.closer kind, 1⟩] := by
  have hempty := tokenize_closeTag kind ""
  rwa [String.append_empty] at hempty

/-- Behind a sealed source, tokens that start with a tag stay as they are, but for their lines. -/
theorem tokenize_append_tag {left right : String} {tokens more : List Token} {first : Token}
    (hs : Sealed left.toList) (h : tokenize left = .ok tokens)
    (htag : first.kind.isText = false) (hright : tokenize right = .ok (first :: more)) :
    tokenize (left ++ right)
      = .ok (tokens ++ (first :: more).map (Token.shift (Text.lineEnds left.toList))) := by
  have hmoved : (first.shift (Text.lineEnds left.toList)).kind.isText = false := htag
  rw [tokenize_append hs h, hright, movedBy_ok, map_ok, List.map_cons,
    joinTokens_of_tag hmoved]

/-- The tokens of a block: its opening tag, those of the source in it, its closing tag. -/
theorem tokenize_block (kind : BlockKind) {path body : String} {tokens : List Token}
    (hp : isPath path = true) (hs : Sealed body.toList) (h : tokenize body = .ok tokens) :
    tokenize (openTag kind path ++ body ++ closeTag kind)
      = .ok (⟨.opener kind path, 1⟩ ::
          (tokens ++ [⟨.closer kind, 1 + Text.lineEnds body.toList⟩])) := by
  -- a sealed source that is parsed leaves neither an open tag nor half an escape before the
  -- closing tag, so the closing tag is read as it is alone
  rw [String.append_assoc, tokenize_openTag kind hp,
    tokenize_append_tag hs h rfl (tokenize_closeTag_alone kind)]
  rfl

/-- **Blocks around a source.** A block around a sealed source that is parsed is parsed one level
    deeper, to one node on the first line with the nodes of the source in it. -/
theorem parse_block (kind : BlockKind) {limit : Nat} {path body : String} {nodes : List Node}
    (hp : isPath path = true) (hs : Sealed body.toList) (h : parse limit body = .ok nodes) :
    parse (limit + 1) (openTag kind path ++ body ++ closeTag kind)
      = .ok [OpenBlock.close ⟨kind, path, 1, [], none⟩ nodes] := by
  obtain ⟨tokens, htokens, hwritten, hn⟩ := exists_written_of_parse h
  refine parse_of_written (tokenize_block kind hp hs htokens)
    (written_close_of_none rfl hwritten _) ?_
  have hinner : nestingFrom 1 tokens = nesting tokens + 1 := nestingFrom_succ hwritten 0
  simp only [nesting, nestingFrom, depthAfter, Nat.zero_add, nestingFrom_append hwritten]
    at hinner hn ⊢
  omega

end BilingualLessons.Template
