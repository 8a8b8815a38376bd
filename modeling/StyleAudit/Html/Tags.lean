/-!
# Kinds of elements

The names by which HTML tells elements apart: which have no content, which hold nothing but text,
which belong into the head, which end a paragraph, which only style the text in them and which hide
what is around them.
-/

namespace StyleAudit.Html

set_option autoImplicit false

def voidTags : List String :=
  ["area", "br", "embed", "img", "keygen", "wbr", "input", "param", "source", "track", "hr"]

def headVoidTags : List String := ["base", "basefont", "bgsound", "link", "meta"]

def headTextTags : List String := ["title", "style", "script", "noframes"]

def escapableTextTags : List String := ["title", "textarea"]

def rawTextTags : List String :=
  ["style", "script", "xmp", "iframe", "noembed", "noframes", "noscript"]

def headingTags : List String := ["h1", "h2", "h3", "h4", "h5", "h6"]

/-- Containers that end a paragraph before them and are ended by their own end tag alone. -/
def containerTags : List String :=
  ["address", "article", "aside", "blockquote", "center", "details", "dialog", "dir", "div", "dl",
    "fieldset", "figcaption", "figure", "footer", "header", "hgroup", "main", "menu", "nav", "ol",
    "pre", "listing", "section", "summary", "ul"]

def formattingTags : List String :=
  ["a", "b", "big", "code", "em", "font", "i", "nobr", "s", "small", "strike", "strong", "tt", "u"]

/-- Elements that keep the formatting around them from going on inside. -/
def boundaryTags : List String := ["applet", "marquee", "object"]

/-- Start tags without effect in a body. -/
def strayTags : List String :=
  ["caption", "col", "colgroup", "frame", "frameset", "head", "tbody", "td", "tfoot", "th", "thead",
    "tr"]

/-- Elements that structure a document. No end tag of another element reaches beyond them. -/
def specialTags : List String :=
  ["address", "applet", "area", "article", "aside", "base", "basefont", "bgsound", "blockquote",
    "body", "br", "button", "caption", "center", "col", "colgroup", "dd", "details", "dir", "div",
    "dl", "dt", "embed", "fieldset", "figcaption", "figure", "footer", "form", "frame", "frameset",
    "h1", "h2", "h3", "h4", "h5", "h6", "head", "header", "hgroup", "hr", "html", "iframe", "img",
    "input", "isindex", "li", "link", "listing", "main", "marquee", "menu", "meta", "nav",
    "noembed", "noframes", "noscript", "object", "ol", "p", "param", "plaintext", "pre", "script",
    "section", "select", "source", "style", "summary", "table", "tbody", "td", "template",
    "textarea", "tfoot", "th", "thead", "title", "tr", "track", "ul", "wbr", "xmp"]

/-- Elements that hide what is around them from the end tags inside. -/
def scopeTags : List String :=
  ["applet", "caption", "html", "table", "td", "th", "marquee", "object", "template"]

def buttonScopeTags : List String := "button" :: scopeTags

def itemScopeTags : List String := "ol" :: "ul" :: scopeTags

end StyleAudit.Html
