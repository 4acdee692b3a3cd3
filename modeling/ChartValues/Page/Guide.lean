import ChartValues.Page.Contents
import ChartValues.Page.Table
import ChartValues.Page.Topic

set_option autoImplicit false

/-!
# The guide page

The guide page shows the same tables as the reference page, and introduces the sections whose topic
is known.

## Main definitions

* `Page.introduction` — the lines about the topic of a section.
* `Page.guide` — the lines of the guide page.
-/

namespace ChartValues

namespace Page

/-- The lines above the table of contents. -/
def guideOpening : List Text :=
  ["# BunkerWeb Helm Chart - Configuration Guide",
    "",
    "Complete configuration guide for the BunkerWeb Helm chart with examples and best practices.",
    "",
    "> 📚 **User Guide**: This document provides detailed explanations and examples for "
      ++ "configuring BunkerWeb.",
    "> For a quick reference, see [`values-reference.md`](values-reference.md).",
    ""].map String.toList

/-- How to install the chart. -/
def quickStart : List Text :=
  ["## Quick Start",
    "",
    "```bash",
    "# Add the BunkerWeb Helm repository",
    "helm repo add bunkerweb https://repo.bunkerweb.io/charts",
    "",
    "# Install with default values",
    "helm install mybunkerweb bunkerweb/bunkerweb",
    "",
    "# Install with custom values",
    "helm install mybunkerweb bunkerweb/bunkerweb -f custom-values.yaml",
    "```",
    ""].map String.toList

/-- The lines below the last section. -/
def guideClosing : List Text :=
  ["## Best Practices",
    "",
    "### Security",
    "- Always change default passwords in production",
    "- Use Kubernetes secrets for sensitive data",
    "- Enable network policies for micro-segmentation",
    "- Set appropriate resource limits",
    "",
    "### Performance",
    "- Use DaemonSet for better performance",
    "- Configure resource requests and limits",
    "- Enable persistent storage for databases",
    "",
    "### High Availability",
    "- Enable Pod Disruption Budgets",
    "- Use anti-affinity rules",
    "- Configure health checks properly",
    "",
    "## Examples",
    "",
    "See the [`examples/`](../examples/) directory for complete configuration examples:",
    "- [`minimal.yaml`](../examples/minimal.yaml) - Basic setup",
    "- [`production.yaml`](../examples/production.yaml) - Production-ready configuration",
    "- [`monitoring.yaml`](../examples/monitoring.yaml) - Full monitoring stack"].map String.toList

/-- The lines about a topic. -/
def introduction (topic : Topic) : List Text :=
  [topic.introduction, [], "### ".toList ++ topic.exampleHeading, "```yaml".toList]
    ++ topic.snippet ++ ["```".toList, []]

/-- The lines of a section. The table is one piece that spans several lines. -/
def guideSection (s : Section) : List Text :=
  [heading s, []] ++ ((topic? s.name).map introduction).getD []
    ++ ["### Configuration Values".toList, [], table s.parameters, []]

/-- The lines of the guide page. -/
def guide (ps : List Parameter) : List Text :=
  let ss := sections ps
  guideOpening ++ quickStart ++ contents ss ++ ss.flatMap guideSection ++ guideClosing

end Page

end ChartValues
