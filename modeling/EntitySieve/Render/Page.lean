import EntitySieve.Render.Settings

/-! A page that draws a diagram in the browser. The template is fixed; four texts go into it: the
title, escaped as markup, and the module's address, the settings and the diagram, each as a JSON
value that cannot end the script around it. -/
namespace EntitySieve

namespace Page

def moduleUrl : Text := "https://cdn.jsdelivr.net/npm/mermaid@11/dist/mermaid.esm.min.mjs"

def defaultTitle : Text := "ER Diagram"

def escapeMarkupChar (c : Char) : Text :=
  if c = '&' then "&amp;"
  else if c = '<' then "&lt;"
  else if c = '>' then "&gt;"
  else if c = '"' then "&quot;"
  else [c]

def escapeMarkup (t : Text) : Text := t.flatMap escapeMarkupChar

/-- Puts a backslash into every start of an end tag; JSON reads the escaped solidus as itself. -/
def shieldEndTags : Text → Text
  | '<' :: '/' :: t => '<' :: '\\' :: '/' :: shieldEndTags t
  | c :: t => c :: shieldEndTags t
  | [] => []

/-- The text of a JSON value inside a script. -/
def scriptLiteral (v : Json) : Text := shieldEndTags v.compact

/-- The template up to the title. -/
def beforeTitle : Text :=
  Text.ofLines
    ["<!DOCTYPE html>",
     "<html lang=\"en\">",
     "<head>",
     "<meta charset=\"utf-8\">",
     "<title>"]

def beforeModule : Text :=
  Text.ofLines
    ["</title>",
     "<style>",
     "  #error \x7b color: #b00020; font-family: monospace; white-space: pre-wrap; \x7d",
     "</style>",
     "</head>",
     "<body>",
     "<div id=\"error\"></div>",
     "<div id=\"diagram\"></div>",
     "<script type=\"module\">",
     "  const errorBox = document.querySelector(\"#error\");",
     "  try \x7b",
     "    const \x7b default: mermaid \x7d = await import("]

def beforeSettings : Text :=
  Text.ofLines
    [");",
     "    mermaid.initialize("]

def beforeDiagram : Text :=
  Text.ofLines
    [");",
     "    const \x7b svg \x7d = await mermaid.render(\"graphDiv\", "]

/-- The template after the diagram. -/
def ending : Text :=
  Text.ofLines
    [");",
     "    document.querySelector(\"#diagram\").innerHTML = svg;",
     "  \x7d catch (error) \x7b",
     "    console.error(\"Error rendering diagram:\", error);",
     "    errorBox.textContent = \"Error rendering diagram: \" + " ++
       "(error && error.message ? error.message : error);",
     "  \x7d",
     "</script>",
     "</body>",
     "</html>",
     ""]

def text (title url : Text) (settings : Settings) (diagram : Text) : Text :=
  beforeTitle ++ escapeMarkup title ++
    beforeModule ++ scriptLiteral (.ofText url) ++
    beforeSettings ++ scriptLiteral settings.toJson ++
    beforeDiagram ++ scriptLiteral (.ofText diagram) ++ ending

end Page
end EntitySieve
