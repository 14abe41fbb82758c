import NovelScript.Markdown.Structure

/-!
# Documents

A document is read in two passes: first its blocks, which also finds every link definition, then the
inner structure of its headings and paragraphs.
-/

namespace NovelScript.Markdown

/-- The blocks of a document. -/
def documentOf (source : Text) : List (Block Prose) :=
  let (blocks, keys) := blocksOf source
  mapBlocks (proseOf keys.contains) blocks

/-- The token stream of a document. -/
def tokensOf (source : Text) : List Token :=
  blockTokens 0 (mapBlocks Prose.running (documentOf source))

end NovelScript.Markdown
