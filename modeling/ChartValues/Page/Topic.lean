import ChartValues.Text.Basic

set_option autoImplicit false

/-!
# Topics

A section whose name tells its topic is introduced, and illustrated by a snippet of a values file.
Topics are tried in order.

## Main definitions

* `Page.Topic` — an introduction and an illustration.
* `Page.topic?` — the topic of a section.
-/

namespace ChartValues

namespace Page

/-- What is said about a topic before its parameters are shown. -/
structure Topic where
  introduction : Text
  exampleHeading : Text
  snippet : List Text
deriving DecidableEq, Repr

/-- Settings of all components. -/
def globalTopic : Topic where
  introduction :=
    ("These settings apply to all components and can be overridden by "
      ++ "component-specific values.").toList
  exampleHeading := "Example Configuration".toList
  snippet :=
    ["# Global node selector",
      "nodeSelector:",
      "  kubernetes.io/arch: \"amd64\"",
      "",
      "# Global tolerations",
      "tolerations:",
      "  - key: node-role",
      "    operator: Equal",
      "    value: master",
      "    effect: NoSchedule"].map String.toList

/-- Settings of the core. -/
def coreTopic : Topic where
  introduction :=
    "Core BunkerWeb settings that control how it behaves in the Kubernetes environment.".toList
  exampleHeading := "Security Configuration".toList
  snippet :=
    ["settings:",
      "  # Use existing secret for sensitive data",
      "  existingSecret: \"bunkerweb-secrets\"",
      "  ",
      "  kubernetes:",
      "    # Monitor specific namespaces",
      "    namespaces: \"default,production\"",
      "    ingressClass: \"bunkerweb\""].map String.toList

/-- Exposure outside the cluster. -/
def serviceTopic : Topic where
  introduction := "Configure how BunkerWeb is exposed outside the cluster.".toList
  exampleHeading := "Load Balancer Configuration".toList
  snippet :=
    ["service:",
      "  type: LoadBalancer",
      "  externalTrafficPolicy: Local",
      "  annotations:",
      "    # AWS Network Load Balancer",
      "    service.beta.kubernetes.io/aws-load-balancer-type: \"nlb\""].map String.toList

/-- The proxy and firewall. -/
def componentTopic : Topic where
  introduction := "Main BunkerWeb reverse proxy and WAF configuration.".toList
  exampleHeading := "DaemonSet vs Deployment".toList
  snippet :=
    ["bunkerweb:",
      "  # DaemonSet: One pod per node (recommended)",
      "  kind: DaemonSet",
      "  hostPorts: true",
      "  ",
      "  # OR Deployment: Specific number of replicas",
      "  # kind: Deployment",
      "  # replicas: 3",
      "  # hostPorts: false"].map String.toList

/-- Monitoring with a snippet for one of its parts. -/
def monitoringTopic (snippet : List Text) : Topic where
  introduction := "Monitoring and observability configuration.".toList
  exampleHeading := "Enable Full Monitoring Stack".toList
  snippet

/-- The part of monitoring that collects metrics. -/
def prometheusSnippet : List Text :=
  ["prometheus:",
    "  enabled: true",
    "  persistence:",
    "    enabled: true",
    "    size: 50Gi"].map String.toList

/-- The part of monitoring that shows dashboards. -/
def grafanaSnippet : List Text :=
  ["grafana:",
    "  enabled: true",
    "  adminPassword: \"secure-password\"",
    "  ingress:",
    "    enabled: true",
    "    hosts:",
    "      - host: grafana.example.com"].map String.toList

/-- The topic of a section, told by its name. -/
def topic? (name : Text) : Option Topic :=
  if name.contains "Global".toList then some globalTopic
  else if name.contains "BunkerWeb".toList && name.contains "Core".toList then some coreTopic
  else if name.contains "Service".toList then some serviceTopic
  else if name.contains "BunkerWeb Component".toList then some componentTopic
  else if name.contains "Monitoring".toList then
    some (monitoringTopic
      (if name.contains "Prometheus".toList then prometheusSnippet else grafanaSnippet))
  else none

end Page

end ChartValues
