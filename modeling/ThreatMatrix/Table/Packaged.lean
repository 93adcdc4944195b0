import ThreatMatrix.Technique.Numbered
import ThreatMatrix.Table.Basic

/-!
# The packaged table

The techniques of the enterprise matrix that come with the library, in the order of their numbers.
A row is a technique number, a sub-technique number, which is zero for a technique itself, and a
name.
-/

namespace ThreatMatrix.Table

/-- The rows of the packaged table. -/
def packagedRows : List (Nat × Nat × String) := [
  (1001, 0, "Data Obfuscation"),
  (1001, 1, "Junk Data"),
  (1001, 2, "Steganography"),
  (1001, 3, "Protocol Impersonation"),
  (1003, 0, "OS Credential Dumping"),
  (1003, 1, "LSASS Memory"),
  (1003, 2, "Security Account Manager"),
  (1003, 3, "NTDS"),
  (1003, 4, "LSA Secrets"),
  (1003, 5, "Cached Domain Credentials"),
  (1003, 6, "DCSync"),
  (1003, 7, "Proc Filesystem"),
  (1003, 8, "/etc/passwd and /etc/shadow"),
  (1005, 0, "Data from Local System"),
  (1006, 0, "Direct Volume Access"),
  (1007, 0, "System Service Discovery"),
  (1008, 0, "Fallback Channels"),
  (1010, 0, "Application Window Discovery"),
  (1011, 0, "Exfiltration Over Other Network Medium"),
  (1011, 1, "Exfiltration Over Bluetooth"),
  (1012, 0, "Query Registry"),
  (1014, 0, "Rootkit"),
  (1016, 0, "System Network Configuration Discovery"),
  (1016, 1, "Internet Connection Discovery"),
  (1016, 2, "Wi-Fi Discovery"),
  (1018, 0, "Remote System Discovery"),
  (1020, 0, "Automated Exfiltration"),
  (1020, 1, "Traffic Duplication"),
  (1021, 0, "Remote Services"),
  (1021, 1, "Remote Desktop Protocol"),
  (1021, 2, "SMB/Windows Admin Shares"),
  (1021, 3, "Distributed Component Object Model"),
  (1021, 4, "SSH"),
  (1021, 5, "VNC"),
  (1021, 6, "Windows Remote Management"),
  (1021, 7, "Cloud Services"),
  (1021, 8, "Direct Cloud VM Connections"),
  (1025, 0, "Data from Removable Media"),
  (1027, 0, "Obfuscated Files or Information"),
  (1027, 1, "Binary Padding"),
  (1027, 2, "Software Packing"),
  (1027, 3, "Steganography"),
  (1027, 4, "Compile After Delivery"),
  (1027, 5, "Indicator Removal from Tools"),
  (1027, 6, "HTML Smuggling"),
  (1027, 7, "Dynamic API Resolution"),
  (1027, 8, "Stripped Payloads"),
  (1027, 9, "Embedded Payloads"),
  (1027, 10, "Command Obfuscation"),
  (1027, 11, "Fileless Storage"),
  (1027, 12, "LNK Icon Smuggling"),
  (1027, 13, "Encrypted/Encoded File"),
  (1029, 0, "Scheduled Transfer"),
  (1030, 0, "Data Transfer Size Limits"),
  (1033, 0, "System Owner/User Discovery"),
  (1036, 0, "Masquerading"),
  (1036, 1, "Invalid Code Signature"),
  (1036, 2, "Right-to-Left Override"),
  (1036, 3, "Rename System Utilities"),
  (1036, 4, "Masquerade Task or Service"),
  (1036, 5, "Match Legitimate Name or Location"),
  (1036, 6, "Space after Filename"),
  (1036, 7, "Double File Extension"),
  (1036, 8, "Masquerade File Type"),
  (1036, 9, "Break Process Trees"),
  (1037, 0, "Boot or Logon Initialization Scripts"),
  (1037, 1, "Logon Script (Windows)"),
  (1037, 2, "Login Hook"),
  (1037, 3, "Network Logon Script"),
  (1037, 4, "RC Scripts"),
  (1037, 5, "Startup Items"),
  (1039, 0, "Data from Network Shared Drive"),
  (1040, 0, "Network Sniffing"),
  (1041, 0, "Exfiltration Over C2 Channel"),
  (1046, 0, "Network Service Discovery"),
  (1047, 0, "Windows Management Instrumentation"),
  (1048, 0, "Exfiltration Over Alternative Protocol"),
  (1048, 1, "Exfiltration Over Symmetric Encrypted Non-C2 Protocol"),
  (1048, 2, "Exfiltration Over Asymmetric Encrypted Non-C2 Protocol"),
  (1048, 3, "Exfiltration Over Unencrypted Non-C2 Protocol"),
  (1049, 0, "System Network Connections Discovery"),
  (1052, 0, "Exfiltration Over Physical Medium"),
  (1052, 1, "Exfiltration over USB"),
  (1053, 0, "Scheduled Task/Job"),
  (1053, 2, "At"),
  (1053, 3, "Cron"),
  (1053, 5, "Scheduled Task"),
  (1053, 6, "Systemd Timers"),
  (1053, 7, "Container Orchestration Job"),
  (1055, 0, "Process Injection"),
  (1055, 1, "Dynamic-link Library Injection"),
  (1055, 2, "Portable Executable Injection"),
  (1055, 3, "Thread Execution Hijacking"),
  (1055, 4, "Asynchronous Procedure Call"),
  (1055, 5, "Thread Local Storage"),
  (1055, 8, "Ptrace System Calls"),
  (1055, 9, "Proc Memory"),
  (1055, 11, "Extra Window Memory Injection"),
  (1055, 12, "Process Hollowing"),
  (1055, 13, "Process Doppelgänging"),
  (1055, 14, "VDSO Hijacking"),
  (1055, 15, "ListPlanting"),
  (1056, 0, "Input Capture"),
  (1056, 1, "Keylogging"),
  (1056, 2, "GUI Input Capture"),
  (1056, 3, "Web Portal Capture"),
  (1056, 4, "Credential API Hooking"),
  (1057, 0, "Process Discovery"),
  (1059, 0, "Command and Scripting Interpreter"),
  (1059, 1, "PowerShell"),
  (1059, 2, "AppleScript"),
  (1059, 3, "Windows Command Shell"),
  (1059, 4, "Unix Shell"),
  (1059, 5, "Visual Basic"),
  (1059, 6, "Python"),
  (1059, 7, "JavaScript"),
  (1059, 8, "Network Device CLI"),
  (1059, 9, "Cloud API"),
  (1068, 0, "Exploitation for Privilege Escalation"),
  (1069, 0, "Permission Groups Discovery"),
  (1069, 1, "Local Groups"),
  (1069, 2, "Domain Groups"),
  (1069, 3, "Cloud Groups"),
  (1070, 0, "Indicator Removal"),
  (1070, 1, "Clear Windows Event Logs"),
  (1070, 2, "Clear Linux or Mac System Logs"),
  (1070, 3, "Clear Command History"),
  (1070, 4, "File Deletion"),
  (1070, 5, "Network Share Connection Removal"),
  (1070, 6, "Timestomp"),
  (1070, 7, "Clear Network Connection History and Configurations"),
  (1070, 8, "Clear Mailbox Data"),
  (1070, 9, "Clear Persistence"),
  (1071, 0, "Application Layer Protocol"),
  (1071, 1, "Web Protocols"),
  (1071, 2, "File Transfer Protocols"),
  (1071, 3, "Mail Protocols"),
  (1071, 4, "DNS"),
  (1072, 0, "Software Deployment Tools"),
  (1074, 0, "Data Staged"),
  (1074, 1, "Local Data Staging"),
  (1074, 2, "Remote Data Staging"),
  (1078, 0, "Valid Accounts"),
  (1078, 1, "Default Accounts"),
  (1078, 2, "Domain Accounts"),
  (1078, 3, "Local Accounts"),
  (1078, 4, "Cloud Accounts"),
  (1080, 0, "Taint Shared Content"),
  (1082, 0, "System Information Discovery"),
  (1083, 0, "File and Directory Discovery"),
  (1087, 0, "Account Discovery"),
  (1087, 1, "Local Account"),
  (1087, 2, "Domain Account"),
  (1087, 3, "Email Account"),
  (1087, 4, "Cloud Account"),
  (1090, 0, "Proxy"),
  (1090, 1, "Internal Proxy"),
  (1090, 2, "External Proxy"),
  (1090, 3, "Multi-hop Proxy"),
  (1090, 4, "Domain Fronting"),
  (1091, 0, "Replication Through Removable Media"),
  (1092, 0, "Communication Through Removable Media"),
  (1095, 0, "Non-Application Layer Protocol"),
  (1098, 0, "Account Manipulation"),
  (1098, 1, "Additional Cloud Credentials"),
  (1098, 2, "Additional Email Delegate Permissions"),
  (1098, 3, "Additional Cloud Roles"),
  (1098, 4, "SSH Authorized Keys"),
  (1098, 5, "Device Registration"),
  (1102, 0, "Web Service"),
  (1102, 1, "Dead Drop Resolver"),
  (1102, 2, "Bidirectional Communication"),
  (1102, 3, "One-Way Communication"),
  (1104, 0, "Multi-Stage Channels"),
  (1105, 0, "Ingress Tool Transfer"),
  (1106, 0, "Native API"),
  (1110, 0, "Brute Force"),
  (1110, 1, "Password Guessing"),
  (1110, 2, "Password Cracking"),
  (1110, 3, "Password Spraying"),
  (1110, 4, "Credential Stuffing"),
  (1111, 0, "Multi-Factor Authentication Interception"),
  (1112, 0, "Modify Registry"),
  (1113, 0, "Screen Capture"),
  (1114, 0, "Email Collection"),
  (1114, 1, "Local Email Collection"),
  (1114, 2, "Remote Email Collection"),
  (1114, 3, "Email Forwarding Rule"),
  (1115, 0, "Clipboard Data"),
  (1119, 0, "Automated Collection"),
  (1120, 0, "Peripheral Device Discovery"),
  (1123, 0, "Audio Capture"),
  (1124, 0, "System Time Discovery"),
  (1125, 0, "Video Capture"),
  (1127, 0, "Trusted Developer Utilities Proxy Execution"),
  (1127, 1, "MSBuild"),
  (1129, 0, "Shared Modules"),
  (1132, 0, "Data Encoding"),
  (1132, 1, "Standard Encoding"),
  (1132, 2, "Non-Standard Encoding"),
  (1133, 0, "External Remote Services"),
  (1134, 0, "Access Token Manipulation"),
  (1134, 1, "Token Impersonation/Theft"),
  (1134, 2, "Create Process with Token"),
  (1134, 3, "Make and Impersonate Token"),
  (1134, 4, "Parent PID Spoofing"),
  (1134, 5, "SID-History Injection"),
  (1135, 0, "Network Share Discovery"),
  (1136, 0, "Create Account"),
  (1136, 1, "Local Account"),
  (1136, 2, "Domain Account"),
  (1136, 3, "Cloud Account"),
  (1137, 0, "Office Application Startup"),
  (1137, 1, "Office Template Macros"),
  (1137, 2, "Office Test"),
  (1137, 3, "Outlook Forms"),
  (1137, 4, "Outlook Home Page"),
  (1137, 5, "Outlook Rules"),
  (1137, 6, "Add-ins"),
  (1140, 0, "Deobfuscate/Decode Files or Information"),
  (1176, 0, "Browser Extensions"),
  (1185, 0, "Browser Session Hijacking"),
  (1187, 0, "Forced Authentication"),
  (1189, 0, "Drive-by Compromise"),
  (1190, 0, "Exploit Public-Facing Application"),
  (1195, 0, "Supply Chain Compromise"),
  (1195, 1, "Compromise Software Dependencies and Development Tools"),
  (1195, 2, "Compromise Software Supply Chain"),
  (1195, 3, "Compromise Hardware Supply Chain"),
  (1197, 0, "BITS Jobs"),
  (1199, 0, "Trusted Relationship"),
  (1200, 0, "Hardware Additions"),
  (1201, 0, "Password Policy Discovery"),
  (1202, 0, "Indirect Command Execution"),
  (1203, 0, "Exploitation for Client Execution"),
  (1204, 0, "User Execution"),
  (1204, 1, "Malicious Link"),
  (1204, 2, "Malicious File"),
  (1204, 3, "Malicious Image"),
  (1205, 0, "Traffic Signaling"),
  (1205, 1, "Port Knocking"),
  (1205, 2, "Socket Filters"),
  (1207, 0, "Rogue Domain Controller"),
  (1210, 0, "Exploitation of Remote Services"),
  (1211, 0, "Exploitation for Defense Evasion"),
  (1212, 0, "Exploitation for Credential Access"),
  (1213, 0, "Data from Information Repositories"),
  (1213, 1, "Confluence"),
  (1213, 2, "Sharepoint"),
  (1213, 3, "Code Repositories"),
  (1216, 0, "System Script Proxy Execution"),
  (1216, 1, "PubPrn"),
  (1217, 0, "Browser Information Discovery"),
  (1218, 0, "System Binary Proxy Execution"),
  (1218, 1, "Compiled HTML File"),
  (1218, 2, "Control Panel"),
  (1218, 3, "CMSTP"),
  (1218, 4, "InstallUtil"),
  (1218, 5, "Mshta"),
  (1218, 7, "Msiexec"),
  (1218, 8, "Odbcconf"),
  (1218, 9, "Regsvcs/Regasm"),
  (1218, 10, "Regsvr32"),
  (1218, 11, "Rundll32"),
  (1218, 12, "Verclsid"),
  (1218, 13, "Mavinject"),
  (1218, 14, "MMC"),
  (1219, 0, "Remote Access Software"),
  (1220, 0, "XSL Script Processing"),
  (1221, 0, "Template Injection"),
  (1222, 0, "File and Directory Permissions Modification"),
  (1222, 1, "Windows File and Directory Permissions Modification"),
  (1222, 2, "Linux and Mac File and Directory Permissions Modification"),
  (1480, 0, "Execution Guardrails"),
  (1480, 1, "Environmental Keying"),
  (1482, 0, "Domain Trust Discovery"),
  (1484, 0, "Domain Policy Modification"),
  (1484, 1, "Group Policy Modification"),
  (1484, 2, "Domain Trust Modification"),
  (1485, 0, "Data Destruction"),
  (1486, 0, "Data Encrypted for Impact"),
  (1489, 0, "Service Stop"),
  (1490, 0, "Inhibit System Recovery"),
  (1491, 0, "Defacement"),
  (1491, 1, "Internal Defacement"),
  (1491, 2, "External Defacement"),
  (1495, 0, "Firmware Corruption"),
  (1496, 0, "Resource Hijacking"),
  (1497, 0, "Virtualization/Sandbox Evasion"),
  (1497, 1, "System Checks"),
  (1497, 2, "User Activity Based Checks"),
  (1497, 3, "Time Based Evasion"),
  (1498, 0, "Network Denial of Service"),
  (1498, 1, "Direct Network Flood"),
  (1498, 2, "Reflection Amplification"),
  (1499, 0, "Endpoint Denial of Service"),
  (1499, 1, "OS Exhaustion Flood"),
  (1499, 2, "Service Exhaustion Flood"),
  (1499, 3, "Application Exhaustion Flood"),
  (1499, 4, "Application or System Exploitation"),
  (1505, 0, "Server Software Component"),
  (1505, 1, "SQL Stored Procedures"),
  (1505, 2, "Transport Agent"),
  (1505, 3, "Web Shell"),
  (1505, 4, "IIS Components"),
  (1505, 5, "Terminal Services DLL"),
  (1518, 0, "Software Discovery"),
  (1518, 1, "Security Software Discovery"),
  (1525, 0, "Implant Internal Image"),
  (1526, 0, "Cloud Service Discovery"),
  (1528, 0, "Steal Application Access Token"),
  (1529, 0, "System Shutdown/Reboot"),
  (1530, 0, "Data from Cloud Storage"),
  (1531, 0, "Account Access Removal"),
  (1534, 0, "Internal Spearphishing"),
  (1535, 0, "Unused/Unsupported Cloud Regions"),
  (1537, 0, "Transfer Data to Cloud Account"),
  (1538, 0, "Cloud Service Dashboard"),
  (1539, 0, "Steal Web Session Cookie"),
  (1542, 0, "Pre-OS Boot"),
  (1542, 1, "System Firmware"),
  (1542, 2, "Component Firmware"),
  (1542, 3, "Bootkit"),
  (1542, 4, "ROMMONkit"),
  (1542, 5, "TFTP Boot"),
  (1543, 0, "Create or Modify System Process"),
  (1543, 1, "Launch Agent"),
  (1543, 2, "Systemd Service"),
  (1543, 3, "Windows Service"),
  (1543, 4, "Launch Daemon"),
  (1546, 0, "Event Triggered Execution"),
  (1546, 1, "Change Default File Association"),
  (1546, 2, "Screensaver"),
  (1546, 3, "Windows Management Instrumentation Event Subscription"),
  (1546, 4, "Unix Shell Configuration Modification"),
  (1546, 5, "Trap"),
  (1546, 6, "LC_LOAD_DYLIB Addition"),
  (1546, 7, "Netsh Helper DLL"),
  (1546, 8, "Accessibility Features"),
  (1546, 9, "AppCert DLLs"),
  (1546, 10, "AppInit DLLs"),
  (1546, 11, "Application Shimming"),
  (1546, 12, "Image File Execution Options Injection"),
  (1546, 13, "PowerShell Profile"),
  (1546, 14, "Emond"),
  (1546, 15, "Component Object Model Hijacking"),
  (1546, 16, "Installer Packages"),
  (1547, 0, "Boot or Logon Autostart Execution"),
  (1547, 1, "Registry Run Keys / Startup Folder"),
  (1547, 2, "Authentication Package"),
  (1547, 3, "Time Providers"),
  (1547, 4, "Winlogon Helper DLL"),
  (1547, 5, "Security Support Provider"),
  (1547, 6, "Kernel Modules and Extensions"),
  (1547, 7, "Re-opened Applications"),
  (1547, 8, "LSASS Driver"),
  (1547, 9, "Shortcut Modification"),
  (1547, 10, "Port Monitors"),
  (1547, 12, "Print Processors"),
  (1547, 13, "XDG Autostart Entries"),
  (1547, 14, "Active Setup"),
  (1547, 15, "Login Items"),
  (1548, 0, "Abuse Elevation Control Mechanism"),
  (1548, 1, "Setuid and Setgid"),
  (1548, 2, "Bypass User Account Control"),
  (1548, 3, "Sudo and Sudo Caching"),
  (1548, 4, "Elevated Execution with Prompt"),
  (1550, 0, "Use Alternate Authentication Material"),
  (1550, 1, "Application Access Token"),
  (1550, 2, "Pass the Hash"),
  (1550, 3, "Pass the Ticket"),
  (1550, 4, "Web Session Cookie"),
  (1552, 0, "Unsecured Credentials"),
  (1552, 1, "Credentials In Files"),
  (1552, 2, "Credentials in Registry"),
  (1552, 3, "Bash History"),
  (1552, 4, "Private Keys"),
  (1552, 5, "Cloud Instance Metadata API"),
  (1552, 6, "Group Policy Preferences"),
  (1552, 7, "Container API"),
  (1553, 0, "Subvert Trust Controls"),
  (1553, 1, "Gatekeeper Bypass"),
  (1553, 2, "Code Signing"),
  (1553, 3, "SIP and Trust Provider Hijacking"),
  (1553, 4, "Install Root Certificate"),
  (1553, 5, "Mark-of-the-Web Bypass"),
  (1553, 6, "Code Signing Policy Modification"),
  (1554, 0, "Compromise Client Software Binary"),
  (1555, 0, "Credentials from Password Stores"),
  (1555, 1, "Keychain"),
  (1555, 2, "Securityd Memory"),
  (1555, 3, "Credentials from Web Browsers"),
  (1555, 4, "Windows Credential Manager"),
  (1555, 5, "Password Managers"),
  (1556, 0, "Modify Authentication Process"),
  (1556, 1, "Domain Controller Authentication"),
  (1556, 2, "Password Filter DLL"),
  (1556, 3, "Pluggable Authentication Modules"),
  (1556, 4, "Network Device Authentication"),
  (1556, 5, "Reversible Encryption"),
  (1556, 6, "Multi-Factor Authentication"),
  (1556, 7, "Hybrid Identity"),
  (1557, 0, "Adversary-in-the-Middle"),
  (1557, 1, "LLMNR/NBT-NS Poisoning and SMB Relay"),
  (1557, 2, "ARP Cache Poisoning"),
  (1557, 3, "DHCP Spoofing"),
  (1558, 0, "Steal or Forge Kerberos Tickets"),
  (1558, 1, "Golden Ticket"),
  (1558, 2, "Silver Ticket"),
  (1558, 3, "Kerberoasting"),
  (1558, 4, "AS-REP Roasting"),
  (1559, 0, "Inter-Process Communication"),
  (1559, 1, "Component Object Model"),
  (1559, 2, "Dynamic Data Exchange"),
  (1559, 3, "XPC Services"),
  (1560, 0, "Archive Collected Data"),
  (1560, 1, "Archive via Utility"),
  (1560, 2, "Archive via Library"),
  (1560, 3, "Archive via Custom Method"),
  (1561, 0, "Disk Wipe"),
  (1561, 1, "Disk Content Wipe"),
  (1561, 2, "Disk Structure Wipe"),
  (1562, 0, "Impair Defenses"),
  (1562, 1, "Disable or Modify Tools"),
  (1562, 2, "Disable Windows Event Logging"),
  (1562, 3, "Impair Command History Logging"),
  (1562, 4, "Disable or Modify System Firewall"),
  (1562, 6, "Indicator Blocking"),
  (1562, 7, "Disable or Modify Cloud Firewall"),
  (1562, 8, "Disable or Modify Cloud Logs"),
  (1562, 9, "Safe Mode Boot"),
  (1562, 10, "Downgrade Attack"),
  (1562, 11, "Spoof Security Alerting"),
  (1562, 12, "Disable or Modify Linux Audit System"),
  (1563, 0, "Remote Service Session Hijacking"),
  (1563, 1, "SSH Hijacking"),
  (1563, 2, "RDP Hijacking"),
  (1564, 0, "Hide Artifacts"),
  (1564, 1, "Hidden Files and Directories"),
  (1564, 2, "Hidden Users"),
  (1564, 3, "Hidden Window"),
  (1564, 4, "NTFS File Attributes"),
  (1564, 5, "Hidden File System"),
  (1564, 6, "Run Virtual Instance"),
  (1564, 7, "VBA Stomping"),
  (1564, 8, "Email Hiding Rules"),
  (1564, 9, "Resource Forking"),
  (1564, 10, "Process Argument Spoofing"),
  (1565, 0, "Data Manipulation"),
  (1565, 1, "Stored Data Manipulation"),
  (1565, 2, "Transmitted Data Manipulation"),
  (1565, 3, "Runtime Data Manipulation"),
  (1566, 0, "Phishing"),
  (1566, 1, "Spearphishing Attachment"),
  (1566, 2, "Spearphishing Link"),
  (1566, 3, "Spearphishing via Service"),
  (1567, 0, "Exfiltration Over Web Service"),
  (1567, 1, "Exfiltration to Code Repository"),
  (1567, 2, "Exfiltration to Cloud Storage"),
  (1567, 3, "Exfiltration to Text Storage Sites"),
  (1568, 0, "Dynamic Resolution"),
  (1568, 1, "Fast Flux DNS"),
  (1568, 2, "Domain Generation Algorithms"),
  (1568, 3, "DNS Calculation"),
  (1569, 0, "System Services"),
  (1569, 1, "Launchctl"),
  (1569, 2, "Service Execution"),
  (1570, 0, "Lateral Tool Transfer"),
  (1571, 0, "Non-Standard Port"),
  (1572, 0, "Protocol Tunneling"),
  (1573, 0, "Encrypted Channel"),
  (1573, 1, "Symmetric Cryptography"),
  (1573, 2, "Asymmetric Cryptography"),
  (1574, 0, "Hijack Execution Flow"),
  (1574, 1, "DLL Search Order Hijacking"),
  (1574, 2, "DLL Side-Loading"),
  (1574, 4, "Dylib Hijacking"),
  (1574, 5, "Executable Installer File Permissions Weakness"),
  (1574, 6, "Dynamic Linker Hijacking"),
  (1574, 7, "Path Interception by PATH Environment Variable"),
  (1574, 8, "Path Interception by Search Order Hijacking"),
  (1574, 9, "Path Interception by Unquoted Path"),
  (1574, 10, "Services File Permissions Weakness"),
  (1574, 11, "Services Registry Permissions Weakness"),
  (1574, 12, "COR_PROFILER"),
  (1574, 13, "KernelCallbackTable"),
  (1578, 0, "Modify Cloud Compute Infrastructure"),
  (1578, 1, "Create Snapshot"),
  (1578, 2, "Create Cloud Instance"),
  (1578, 3, "Delete Cloud Instance"),
  (1578, 4, "Revert Cloud Instance"),
  (1580, 0, "Cloud Infrastructure Discovery"),
  (1583, 0, "Acquire Infrastructure"),
  (1583, 1, "Domains"),
  (1583, 2, "DNS Server"),
  (1583, 3, "Virtual Private Server"),
  (1583, 4, "Server"),
  (1583, 5, "Botnet"),
  (1583, 6, "Web Services"),
  (1583, 7, "Serverless"),
  (1584, 0, "Compromise Infrastructure"),
  (1584, 1, "Domains"),
  (1584, 2, "DNS Server"),
  (1584, 3, "Virtual Private Server"),
  (1584, 4, "Server"),
  (1584, 5, "Botnet"),
  (1584, 6, "Web Services"),
  (1584, 7, "Serverless"),
  (1585, 0, "Establish Accounts"),
  (1585, 1, "Social Media Accounts"),
  (1585, 2, "Email Accounts"),
  (1585, 3, "Cloud Accounts"),
  (1586, 0, "Compromise Accounts"),
  (1586, 1, "Social Media Accounts"),
  (1586, 2, "Email Accounts"),
  (1586, 3, "Cloud Accounts"),
  (1587, 0, "Develop Capabilities"),
  (1587, 1, "Malware"),
  (1587, 2, "Code Signing Certificates"),
  (1587, 3, "Digital Certificates"),
  (1587, 4, "Exploits"),
  (1588, 0, "Obtain Capabilities"),
  (1588, 1, "Malware"),
  (1588, 2, "Tool"),
  (1588, 3, "Code Signing Certificates"),
  (1588, 4, "Digital Certificates"),
  (1588, 5, "Exploits"),
  (1588, 6, "Vulnerabilities"),
  (1589, 0, "Gather Victim Identity Information"),
  (1589, 1, "Credentials"),
  (1589, 2, "Email Addresses"),
  (1589, 3, "Employee Names"),
  (1590, 0, "Gather Victim Network Information"),
  (1590, 1, "Domain Properties"),
  (1590, 2, "DNS"),
  (1590, 3, "Network Trust Dependencies"),
  (1590, 4, "Network Topology"),
  (1590, 5, "IP Addresses"),
  (1590, 6, "Network Security Appliances"),
  (1591, 0, "Gather Victim Org Information"),
  (1591, 1, "Determine Physical Locations"),
  (1591, 2, "Business Relationships"),
  (1591, 3, "Identify Business Tempo"),
  (1591, 4, "Identify Roles"),
  (1592, 0, "Gather Victim Host Information"),
  (1592, 1, "Hardware"),
  (1592, 2, "Software"),
  (1592, 3, "Firmware"),
  (1592, 4, "Client Configurations"),
  (1593, 0, "Search Open Websites/Domains"),
  (1593, 1, "Social Media"),
  (1593, 2, "Search Engines"),
  (1593, 3, "Code Repositories"),
  (1594, 0, "Search Victim-Owned Websites"),
  (1595, 0, "Active Scanning"),
  (1595, 1, "Scanning IP Blocks"),
  (1595, 2, "Vulnerability Scanning"),
  (1595, 3, "Wordlist Scanning"),
  (1596, 0, "Search Open Technical Databases"),
  (1596, 1, "DNS/Passive DNS"),
  (1596, 2, "WHOIS"),
  (1596, 3, "Digital Certificates"),
  (1596, 4, "CDNs"),
  (1596, 5, "Scan Databases"),
  (1597, 0, "Search Closed Sources"),
  (1597, 1, "Threat Intel Vendors"),
  (1597, 2, "Purchase Technical Data"),
  (1598, 0, "Phishing for Information"),
  (1598, 1, "Spearphishing Service"),
  (1598, 2, "Spearphishing Attachment"),
  (1598, 3, "Spearphishing Link"),
  (1599, 0, "Network Boundary Bridging"),
  (1599, 1, "Network Address Translation Traversal"),
  (1600, 0, "Weaken Encryption"),
  (1600, 1, "Reduce Key Space"),
  (1600, 2, "Disable Crypto Hardware"),
  (1601, 0, "Modify System Image"),
  (1601, 1, "Patch System Image"),
  (1601, 2, "Downgrade System Image"),
  (1602, 0, "Data from Configuration Repository"),
  (1602, 1, "SNMP (MIB Dump)"),
  (1602, 2, "Network Device Configuration Dump"),
  (1606, 0, "Forge Web Credentials"),
  (1606, 1, "Web Cookies"),
  (1606, 2, "SAML Tokens"),
  (1608, 0, "Stage Capabilities"),
  (1608, 1, "Upload Malware"),
  (1608, 2, "Upload Tool"),
  (1608, 3, "Install Digital Certificate"),
  (1608, 4, "Drive-by Target"),
  (1608, 5, "Link Target"),
  (1608, 6, "SEO Poisoning"),
  (1609, 0, "Container Administration Command"),
  (1610, 0, "Deploy Container"),
  (1611, 0, "Escape to Host"),
  (1612, 0, "Build Image on Host"),
  (1613, 0, "Container and Resource Discovery"),
  (1614, 0, "System Location Discovery"),
  (1614, 1, "System Language Discovery"),
  (1615, 0, "Group Policy Discovery"),
  (1619, 0, "Cloud Storage Object Discovery"),
  (1620, 0, "Reflective Code Loading"),
  (1621, 0, "Multi-Factor Authentication Request Generation"),
  (1622, 0, "Debugger Evasion"),
  (1647, 0, "Plist File Modification"),
  (1648, 0, "Serverless Execution"),
  (1649, 0, "Steal or Forge Authentication Certificates"),
  (1651, 0, "Cloud Administration Command"),
  (1652, 0, "Device Driver Discovery"),
  (1653, 0, "Power Settings"),
  (1654, 0, "Log Enumeration"),
  (1656, 0, "Impersonation"),
  (1657, 0, "Financial Theft"),
  (1659, 0, "Content Injection")]

/-- The numbers of the packaged rows. -/
def packagedNumbers : List (Nat × Nat) :=
  packagedRows.map fun row => (row.1, row.2.1)

/-- Every pair of numbers is greater than the one before. -/
def ascending : List (Nat × Nat) → Bool
  | first :: second :: more =>
    (first.1 < second.1 || (first.1 == second.1 && first.2 < second.2)) &&
      ascending (second :: more)
  | _ => true

theorem pairwise_of_ascending {numbers : List (Nat × Nat)} (rising : ascending numbers = true) :
    numbers.Pairwise fun left right =>
      left.1 < right.1 ∨ (left.1 = right.1 ∧ left.2 < right.2) := by
  induction numbers with
  | nil => exact .nil
  | cons first more inductionHypothesis =>
    match more, rising, inductionHypothesis with
    | [], _, _ => exact List.pairwise_singleton _ _
    | second :: rest, rising, inductionHypothesis =>
      simp only [ascending, Bool.and_eq_true, Bool.or_eq_true, decide_eq_true_eq,
        beq_iff_eq] at rising
      have tail := inductionHypothesis rising.2
      refine List.pairwise_cons.2 ⟨fun later member => ?_, tail⟩
      rcases List.mem_cons.1 member with rfl | member
      · exact rising.1
      · have next := (List.pairwise_cons.1 tail).1 later member
        have step := rising.1
        omega

theorem nodup_of_ascending {numbers : List (Nat × Nat)} (rising : ascending numbers = true) :
    numbers.Nodup :=
  (pairwise_of_ascending rising).imp fun less same => by subst same; omega

theorem packagedNumbers_ascending : ascending packagedNumbers = true := by decide +kernel

theorem packagedNumbers_bounded :
    packagedNumbers.all (fun numbers => numbers.1 < 10000 && numbers.2 < 1000) = true := by
  decide +kernel

/-- Sub-technique numbers stand behind their technique, whose number may be in force already. -/
def grouped : Nat → List (Nat × Nat) → Bool
  | _, [] => true
  | current, numbers :: more =>
    (numbers.2 == 0 || numbers.1 == current) && grouped numbers.1 more

theorem parent_mem_of_grouped {current : Nat} {numbers : List (Nat × Nat)}
    (inGroups : grouped current numbers = true) {pair : Nat × Nat} (member : pair ∈ numbers) :
    (pair.1, 0) ∈ numbers ∨ pair.1 = current := by
  induction numbers generalizing current with
  | nil => cases member
  | cons first more inductionHypothesis =>
    simp only [grouped, Bool.and_eq_true, Bool.or_eq_true, beq_iff_eq] at inGroups
    have ofFirst : (first.1, 0) ∈ first :: more ∨ first.1 = current :=
      inGroups.1.imp (fun zero => by rw [← zero]; exact List.mem_cons_self) fun same => same
    rcases List.mem_cons.1 member with rfl | later
    · exact ofFirst
    · rcases inductionHypothesis inGroups.2 later with found | same
      · exact .inl (List.mem_cons_of_mem _ found)
      · rw [same]; exact ofFirst

theorem packagedNumbers_grouped : grouped 10000 packagedNumbers = true := by decide +kernel

/-- The packaged techniques. -/
def packagedTechniques : List Technique :=
  packagedRows.map fun row => ⟨.ofNumbers row.1 row.2.1, row.2.2⟩

/-- The identifiers of the packaged techniques are those of their numbers. -/
theorem packagedTechniques_ids :
    packagedTechniques.map (·.id) =
      packagedNumbers.map fun numbers => .ofNumbers numbers.1 numbers.2 := by
  simp [packagedTechniques, packagedNumbers, Function.comp_def]

theorem packagedTechniques_distinct : (packagedTechniques.map (·.id)).Nodup := by
  rw [packagedTechniques_ids]
  refine List.Pairwise.map _ ?_
    (List.Pairwise.and_mem.1 (nodup_of_ascending packagedNumbers_ascending))
  intro left right ⟨leftMember, rightMember, apart⟩ same
  have bounds := fun numbers member => List.all_eq_true.1 packagedNumbers_bounded numbers member
  have leftBounds := bounds left leftMember
  have rightBounds := bounds right rightMember
  simp only [Bool.and_eq_true, decide_eq_true_eq] at leftBounds rightBounds
  have keys := congrArg TechniqueId.key same
  rw [TechniqueId.key_ofNumbers leftBounds.1 leftBounds.2,
    TechniqueId.key_ofNumbers rightBounds.1 rightBounds.2] at keys
  exact apart keys

theorem packagedTechniques_parented (technique : Technique)
    (member : technique ∈ packagedTechniques) (parent : Text)
    (isParent : technique.id.parentText? = some parent) :
    parent ∈ packagedTechniques.map (·.id.text) := by
  have idMember : technique.id ∈ packagedTechniques.map (·.id) := List.mem_map_of_mem member
  rw [packagedTechniques_ids] at idMember
  obtain ⟨numbers, numbersMember, isId⟩ := List.mem_map.1 idMember
  rw [← isId] at isParent
  have above := (TechniqueId.parentText?_ofNumbers isParent).2
  have bounds := List.all_eq_true.1 packagedNumbers_bounded numbers numbersMember
  simp only [Bool.and_eq_true, decide_eq_true_eq] at bounds
  have present := (parent_mem_of_grouped packagedNumbers_grouped numbersMember).resolve_right
    (Nat.ne_of_lt bounds.1)
  have listed : TechniqueId.ofNumbers numbers.1 0 ∈ packagedTechniques.map (·.id) := by
    rw [packagedTechniques_ids]
    exact List.mem_map.2 ⟨(numbers.1, 0), present, rfl⟩
  obtain ⟨row, rowMember, isRow⟩ := List.mem_map.1 listed
  exact List.mem_map.2 ⟨row, rowMember, by rw [above, ← isRow]⟩

/-- The packaged table. -/
def packaged : Table where
  domain := "enterprise-attack"
  version := some "14.1"
  techniques := packagedTechniques
  distinct := packagedTechniques_distinct
  parented := packagedTechniques_parented

/-- The identifiers of the packaged table have plain digits. -/
theorem hasValues_packaged : packaged.HasValues := by
  intro technique member
  have idMember : technique.id ∈ packagedTechniques.map (·.id) := List.mem_map_of_mem member
  rw [packagedTechniques_ids] at idMember
  obtain ⟨numbers, -, isId⟩ := List.mem_map.1 idMember
  exact isId ▸ TechniqueId.hasValues_ofNumbers numbers.1 numbers.2

end ThreatMatrix.Table
