import ChartValues.Page.Contents
import ChartValues.Page.Table

set_option autoImplicit false

/-!
# The reference page

The reference page is a table of contents and one table for each section.

## Main definitions

* `Page.reference` — the lines of the reference page.
-/

namespace ChartValues

namespace Page

/-- The lines above the table of contents. -/
def referenceOpening : List Text :=
  ["# BunkerWeb Helm Chart - Values Reference",
    "",
    "Quick reference for all configuration values available in the BunkerWeb Helm chart.",
    "",
    "> ⚠️ **Auto-generated**: This file is automatically generated from `values.yaml`. "
      ++ "Do not edit manually.",
    ""].map String.toList

/-- The lines below the last section. -/
def referenceClosing : List Text :=
  ["## Further Reading",
    "",
    "- [BunkerWeb Documentation](https://docs.bunkerweb.io/)",
    "- [Kubernetes Configuration Best Practices]"
      ++ "(https://kubernetes.io/docs/concepts/configuration/)",
    "- [Helm Chart Development Guide](https://helm.sh/docs/chart_template_guide/)",
    "",
    "---",
    "*This documentation was auto-generated from `values.yaml`*"].map String.toList

/-- The lines of a section. The table is one piece that spans several lines. -/
def referenceSection (s : Section) : List Text :=
  [heading s, [], table s.parameters, []]

/-- The lines of the reference page. -/
def reference (ps : List Parameter) : List Text :=
  let ss := sections ps
  referenceOpening ++ contents ss ++ ss.flatMap referenceSection ++ referenceClosing

end Page

end ChartValues
