import EntitySieve.Log.Record
import EntitySieve.Render.Page

/-! Renderers: a diagram becomes its own source, or a page that draws it. -/
namespace EntitySieve

structure Renderer where
  name : Text
  format : Text
  render : Text → Settings → Logged (Except Failure Text)

namespace Renderer

/-- Passes the source through. -/
def source : Renderer where
  name := "mermaid-source"
  format := "mmd"
  render diagram _ := pure (.ok diagram)

def page (title url : Text) : Renderer where
  name := "html"
  format := "html"
  render diagram settings :=
    Logged.within ⟨"render_html", .debug, [("diagram_len", .count (Text.byteLength diagram))]⟩ do
      Logged.emit ⟨"Embedding render config", .debug,
        [("config", .text (Page.scriptLiteral settings.toJson))]⟩
      return .ok (Page.text title url settings diagram)

@[simp] theorem render_source (diagram : Text) (settings : Settings) :
    (source.render diagram settings).value = .ok diagram := rfl

@[simp] theorem render_page (title url diagram : Text) (settings : Settings) :
    ((page title url).render diagram settings).value = .ok (Page.text title url settings diagram) :=
  rfl

end Renderer
end EntitySieve
